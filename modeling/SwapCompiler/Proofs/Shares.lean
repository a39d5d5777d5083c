import SwapCompiler.Proofs.Decimal.Notation
import SwapCompiler.Proofs.Percentage
import SwapCompiler.Proofs.TokenPositions

/-!
# What a share is written as

The number in the header of a leg frame is the least one that is not below a hundred times the
share, as the share's own text gives it (`Percentage.encode_isLeast`). The share is never what keeps
a frame from being written, and a larger share has no smaller number.
-/

namespace SwapCompiler

/-! ## The text of a share -/

namespace Percentage

variable {share : Float} {mantissa : Nat} {exponent : Int}

/-- A share is taken as its text gives it, and the text is read as the binary number nearest to
what it gives. -/
theorem exists_read?_write (unpacks : Binary64.Unpacks share mantissa exponent) :
    ∃ d, Decimal.read? (Number.write (.float share)) = some d ∧
      Text.readPlainReal? (Number.write (.float share)).toList = some d.toFloat ∧
      d.value = (decimal share).value := by
  have text : Number.write (.float share) = (decimal share).write Decimal.layout := by
    rw [Number.write, decimal_eq unpacks, unpacks.ofFloat_eq, Binary64.write]
  obtain ⟨d, read, same⟩ := Decimal.exists_read?_write (decimal share)
  rw [text]
  exact ⟨d, read, Decimal.readPlainReal?_of_read? read, same⟩

end Percentage

/-! ## The field of a share -/

/-- A text that is no address is no reason to refuse a route. -/
theorem Address.decode_ne_refused {text : String} {reason : Refusal} :
    decode text ≠ .error (.refused reason) := by
  intro refused
  rw [decode, Outcome.bind_eq_error] at refused
  obtain refused | ⟨normalized, -, refused⟩ := refused
  · rw [check] at refused
    split at refused <;> cases refused
  · split at refused <;> cases refused

theorem Patch.findAddress_ne_overflow {data : Bytes} {address label field : String}
    {value width : Int} :
    findAddress data address label ≠ .error (Refusal.headerOverflow field value width) := by
  intro refused
  rw [findAddress, Outcome.bind_eq_error] at refused
  obtain refused | ⟨bytes, -, refused⟩ := refused
  · exact Address.decode_ne_refused refused
  · rw [find] at refused
    split at refused <;> cases refused

namespace Payload

variable {calls : Bytes} {percent : Number} {srcToken destToken : String} {withdraw : Bool}
  {hundredths : Nat}

/-- A number that fits is never what keeps a frame from being written. -/
theorem legFrame_ne_overflow (encoded : Percentage.encode percent = .ok hundredths)
    (fits : hundredths < 2 ^ 64) (value width : Int) :
    legFrame calls percent srcToken destToken withdraw ≠
      .error (Refusal.headerOverflow "percentage" value width) := by
  intro refused
  rw [legFrame_eq_bind, encoded] at refused
  simp only [Outcome.bind_eq_error, Outcome.ok_bind, Patch.findAddress_ne_overflow, false_or]
    at refused
  obtain ⟨srcTokenPos, -, destTokenPos, -, refused⟩ := refused
  -- only the last field has this name
  have fit : ∀ field ∈ legFields calls withdraw destTokenPos srcTokenPos hundredths,
      field.name = "percentage" → field.Fits := by
    have last : Header.Field.Fits ⟨"percentage", hundredths, (8 : Nat)⟩ :=
      Header.fits_natCast.mpr fits
    simpa [legFields] using last
  obtain ⟨before, field, after, fields, -, unfit, overflow⟩ := Header.refusesFirst_of_pack
    (regular_legFields calls withdraw destTokenPos srcTokenPos hundredths) refused
  have member : field ∈ legFields calls withdraw destTokenPos srcTokenPos hundredths := by
    rw [fields]
    simp
  have name : "percentage" = field.name := by
    injection overflow with overflow
    injection overflow
  exact unfit (fit field member name.symm)

/-- The header of a frame has the number in its last field. -/
theorem exists_header_of_legFrame {frame : Bytes}
    (encoded : Percentage.encode percent = .ok hundredths)
    (made : legFrame calls percent srcToken destToken withdraw = .ok frame) :
    ∃ size flag destTokenPos srcTokenPos, Header.unpack? [4, 4, 8, 8, 8] frame =
      some ([size, flag, destTokenPos, srcTokenPos, hundredths], calls) := by
  rw [legFrame_eq_bind, encoded] at made
  simp only [Outcome.bind_eq_ok, Outcome.ok_bind] at made
  obtain ⟨srcTokenPos, -, destTokenPos, -, packed⟩ := made
  exact ⟨_, _, _, _, Header.unpack?_of_pack packed⟩

end Payload

/-! ## The main statement -/

namespace Percentage

/-- A share is encoded as the least whole number that is not below a hundred times the number its
text stands for. It is one from 1 to 10000, fits its field whatever else a frame has, and does not
fall where the share grows. -/
theorem encode_isLeast {share : Float} (positive : 0 < share) (atMost : share ≤ 100) :
    ∃ (d : Decimal) (n : Nat), Decimal.read? (Number.write (.float share)) = some d ∧
      encode (.float share) = .ok n ∧ IsLeast {k : Int | 100 * d.value ≤ k} n ∧
      1 ≤ n ∧ n ≤ 10000 ∧ (n : ℚ) < 100 * d.value + 1 ∧
      (∀ calls srcToken destToken withdraw,
        (∀ value width, Payload.legFrame calls (.float share) srcToken destToken withdraw ≠
          .error (Refusal.headerOverflow "percentage" value width)) ∧
        ∀ frame, Payload.legFrame calls (.float share) srcToken destToken withdraw = .ok frame →
          ∃ size flag destTokenPos srcTokenPos, Header.unpack? [4, 4, 8, 8, 8] frame =
            some ([size, flag, destTokenPos, srcTokenPos, n], calls)) ∧
      ∀ share', 0 < share' → share' ≤ 100 → share ≤ share' →
        ∃ m : Nat, encode (.float share') = .ok m ∧ n ≤ m := by
  obtain ⟨mantissa, exponent, unpacks⟩ := Binary64.exists_unpacks_of_share positive atMost
  obtain ⟨d, read, -, same⟩ := exists_read?_write unpacks
  obtain ⟨n, encoded, least, most⟩ := encode_share positive atMost
  have ceil : (n : Int) = ⌈100 * d.value⌉ := by
    have both := encoded.symm.trans (encode_eq_ceil positive atMost)
    rw [same]
    exact Except.ok.inj both
  refine ⟨d, n, read, encoded, ?_, least, most, ?_, ?_, ?_⟩
  · rw [ceil]
    exact ⟨Int.le_ceil (100 * d.value), fun _ above => Int.ceil_le.mpr above⟩
  · have close := Int.ceil_lt_add_one (100 * d.value)
    rw [← ceil] at close
    exact_mod_cast close
  · intro calls srcToken destToken withdraw
    exact ⟨Payload.legFrame_ne_overflow encoded (by omega),
      fun frame => Payload.exists_header_of_legFrame encoded⟩
  · intro share' positive' atMost' le
    obtain ⟨mantissa', exponent', unpacks'⟩ := Binary64.exists_unpacks_of_share positive' atMost'
    obtain ⟨m, encoded', -⟩ := encode_share positive' atMost'
    have ceil' : (m : Int) = ⌈100 * (decimal share').value⌉ :=
      Except.ok.inj (encoded'.symm.trans (encode_eq_ceil positive' atMost'))
    have mono : ⌈100 * (decimal share).value⌉ ≤ ⌈100 * (decimal share').value⌉ :=
      Int.ceil_mono (mul_le_mul_of_nonneg_left (decimal_mono unpacks unpacks' le) (by norm_num))
    rw [← same, ← ceil, ← ceil'] at mono
    exact ⟨m, encoded', Int.ofNat_le.mp mono⟩

/-- The binary number of 1.1 is a little more than 1.1, but 110 is enough. -/
theorem encode_isLeast_eleven_tenths :
    (0 : Float) < 1.1 ∧ (1.1 : Float) ≤ 100 ∧ Number.write (.float 1.1) = "1.1" ∧
      ∃ d, Decimal.read? "1.1" = some d ∧ encode (.float 1.1) = .ok 110 ∧
        IsLeast {k : Int | 100 * d.value ≤ k} 110 ∧
        ∃ m : Nat, encode (.float 1.2) = .ok m ∧ 110 ≤ m := by
  have positive : (0 : Float) < 1.1 := by decide +kernel
  have atMost : (1.1 : Float) ≤ 100 := by decide +kernel
  have text : Number.write (.float 1.1) = "1.1" := by decide +kernel
  have hundredths : encode (.float 1.1) = .ok (110 : Nat) := by decide +kernel
  obtain ⟨d, n, read, encoded, isLeast, -, -, -, -, mono⟩ := encode_isLeast positive atMost
  obtain rfl : n = 110 := Int.ofNat_inj.mp (Except.ok.inj (encoded.symm.trans hundredths))
  rw [text] at read
  exact ⟨positive, atMost, text, d, read, hundredths, isLeast,
    mono 1.2 (by decide +kernel) (by decide +kernel) (by decide +kernel)⟩

end Percentage

end SwapCompiler
