import SwapCompiler.CallTemplate
import SwapCompiler.Network
import SwapCompiler.Proofs.Hex
import SwapCompiler.Proofs.Outcome

/-!
# The bytes of strict texts

A text of the strict form can be read: an address to twenty bytes (`Address.decode_of_strict`,
`Address.length_bytesOf`), a byte string to the bytes that its pairs of digits write
(`HexData.bytes_eq`). A network is strict if its addresses are.
-/

namespace SwapCompiler

namespace Text

/-- In ASCII the lower-case form goes character by character. -/
theorem lowerFrom_of_ascii {text : List Char} (ascii : ∀ c ∈ text, c.toNat < 128)
    (before done : List Char) :
    lowerFrom before done text = done.reverse ++ text.map smallLetter := by
  induction text generalizing before done with
  | nil => simp [lowerFrom]
  | cons c rest ih =>
    rw [List.forall_mem_cons] at ascii
    have notDotted : c ≠ '\u0130' := by
      rintro rfl
      exact absurd ascii.1 (by decide)
    have notSigma : c ≠ 'Σ' := by
      rintro rfl
      exact absurd ascii.1 (by decide)
    simp only [lowerFrom, notDotted, notSigma, if_false, ih ascii.2]
    simp

/-- The lower-case form of digits behind their mark. -/
theorem toList_lower {text : String} {digits : List Char}
    (form : text.toList = '0' :: 'x' :: digits) (hex : ∀ c ∈ digits, (Hex.digit? c).isSome) :
    (lower text).toList = '0' :: 'x' :: digits.map smallLetter := by
  have ascii : ∀ c ∈ text.toList, c.toNat < 128 := by
    rw [form]
    simp only [List.forall_mem_cons]
    exact ⟨by decide, by decide, fun c h => Hex.toNat_lt_of_digit (hex c h)⟩
  rw [lower, String.toList_ofList, lowerFrom_of_ascii ascii, form]
  rfl

/-- A run of hexadecimal digits is read to its end. -/
theorem digitRun_eq_some {text : List Char} (digits : ∀ c ∈ text, (Hex.digit? c).isSome)
    (read : List Nat) (afterUnderscore : Bool) (some : afterUnderscore = true → text ≠ []) :
    ∃ values, digitRun hexadecimalDigit? afterUnderscore read text = Option.some (values, []) := by
  induction text generalizing read afterUnderscore with
  | nil =>
    have fresh : afterUnderscore = false := by
      cases afterUnderscore with
      | false => rfl
      | true => exact absurd rfl (some rfl)
    exact ⟨read, by simp [digitRun, fresh]⟩
  | cons c rest ih =>
    rw [List.forall_mem_cons] at digits
    have value : ∃ digit, hexadecimalDigit? c = Option.some digit := by
      rw [hexadecimalDigit?]
      cases decimalDigit? c with
      | some digit => exact ⟨digit, rfl⟩
      | none => exact Option.isSome_iff_exists.mp digits.1
    obtain ⟨digit, value⟩ := value
    simp only [digitRun, Hex.ne_underscore_of_digit digits.1, if_false, value]
    exact ih digits.2 _ false (fun h => nomatch h)

end Text

namespace Address

/-- The bytes of an address, and none where the text is no address. -/
def bytesOf (text : String) : Bytes := (decode text).toOption.getD []

/-- The bytes of an address of the strict form. -/
def bytes (address : Address) : Bytes := bytesOf address.text

theorem bytesOf_eq {text : String} {bytes : Bytes} (h : decode text = .ok bytes) :
    bytesOf text = bytes := by
  rw [bytesOf, h]
  rfl

theorem bytesOf_eq_nil {text : String} {fault : Fault} (h : decode text = .error fault) :
    bytesOf text = [] := by
  rw [bytesOf, h]
  rfl

theorem decode_eq_ok {text : String} {bytes : Bytes} :
    decode text = .ok bytes ∧ bytes.length = 20 ↔
      (bytesOf text).length = 20 ∧ bytesOf text = bytes := by
  constructor
  · rintro ⟨read, length⟩
    rw [bytesOf_eq read]
    exact ⟨length, rfl⟩
  · rintro ⟨length, rfl⟩
    refine ⟨?_, length⟩
    cases read : decode text with
    | ok bytes => rw [bytesOf_eq read]
    | error fault =>
      rw [bytesOf_eq_nil read] at length
      cases length

attribute [irreducible] bytesOf

theorem decode_of_length {text : String} (length : (bytesOf text).length = 20) :
    decode text = .ok (bytesOf text) :=
  (decode_eq_ok.mpr ⟨length, rfl⟩).1

/-- The parts of a text of the strict form. -/
theorem exists_digits {text : String} (strict : isStrictAddress text = true) :
    ∃ digits, text.toList = '0' :: 'x' :: digits ∧ digits.length = 40 ∧
      ∀ c ∈ digits, (Hex.digit? c).isSome := by
  unfold isStrictAddress at strict
  split at strict
  · rename_i digits form
    simp only [Bool.and_eq_true, beq_iff_eq, List.all_eq_true] at strict
    exact ⟨digits, form, strict⟩
  · cases strict

theorem toList_normalize {text : String} {digits : List Char}
    (form : text.toList = '0' :: 'x' :: digits) (hex : ∀ c ∈ digits, (Hex.digit? c).isSome) :
    (normalize text).toList = '0' :: 'x' :: digits.map Text.smallLetter := by
  simp only [normalize, Text.toList_lower form hex]

/-- Normalizing the strict form is lowering its case. -/
theorem normalize_of_strict {text : String} (strict : isStrictAddress text = true) :
    normalize text = Text.lower text := by
  obtain ⟨digits, form, -, hex⟩ := exists_digits strict
  simp only [normalize, Text.toList_lower form hex]

theorem normalize_normalize {text : String} (strict : isStrictAddress text = true) :
    normalize (normalize text) = normalize text := by
  obtain ⟨digits, form, -, hex⟩ := exists_digits strict
  rw [← String.toList_inj, toList_normalize (toList_normalize form hex) (Hex.digits_smallLetter hex),
    toList_normalize form hex, Hex.map_smallLetter_smallLetter hex]

/-- A run of hexadecimal digits is the body of a literal. -/
theorem isHexadecimalBody_of_digits {body : List Char} (length : body ≠ [])
    (digits : ∀ c ∈ body, (Hex.digit? c).isSome) : Text.isHexadecimalBody body = true := by
  obtain ⟨values, run⟩ := Text.digitRun_eq_some digits [] true fun _ => length
  cases body with
  | nil => exact absurd rfl length
  | cons c rest =>
    have first : c ≠ '_' := Hex.ne_underscore_of_digit (digits c List.mem_cons_self)
    simp only [Text.isHexadecimalBody]
    split
    · rename_i cut
      split at cut
      · rename_i h
        cases h
        exact absurd rfl first
      · rw [run] at cut
        cases cut
    · rename_i cut
      split at cut
      · rename_i h
        cases h
        exact absurd rfl first
      · rw [run] at cut
        cases cut
        rfl

/-- The normalized text of the strict form. -/
theorem exists_digits_normalize {text : String} (strict : isStrictAddress text = true) :
    ∃ digits, (normalize text).toList = '0' :: 'x' :: digits ∧ digits.length = 40 ∧
      ∀ c ∈ digits, (Hex.digit? c).isSome := by
  obtain ⟨digits, form, length, hex⟩ := exists_digits strict
  exact ⟨digits.map Text.smallLetter, toList_normalize form hex, by rw [List.length_map, length],
    Hex.digits_smallLetter hex⟩

theorem isStrictAddress_normalize {text : String} (strict : isStrictAddress text = true) :
    isStrictAddress (normalize text) = true := by
  obtain ⟨digits, form, length, hex⟩ := exists_digits_normalize strict
  unfold isStrictAddress
  simp only [form, length, beq_self_eq_true, Bool.true_and, List.all_eq_true]
  exact hex

/-- The strict form is accepted. -/
theorem check_of_strict {text : String} (strict : isStrictAddress text = true) :
    check text = .ok (normalize text) := by
  obtain ⟨digits, form, length, hex⟩ := exists_digits_normalize strict
  have valid : isValid (normalize text) = true := by
    simp only [isValid, form, Bool.and_eq_true, beq_iff_eq]
    refine ⟨length, isHexadecimalBody_of_digits ?_ hex⟩
    rintro rfl
    cases length
  rw [check, if_pos valid]

/-- An address of the strict form has the bytes of its pairs of digits. -/
theorem decode_eq_pairs {text : String} {digits : List Char} (strict : isStrictAddress text = true)
    (form : (normalize text).toList = '0' :: 'x' :: digits) :
    Hex.isPairs digits = true ∧ decode text = .ok (Hex.pairs digits) := by
  obtain ⟨_, form', length, hex⟩ := exists_digits_normalize strict
  rw [form] at form'
  cases form'
  have pairs : Hex.isPairs digits = true :=
    Hex.isPairs_iff.mpr ⟨by rw [length], hex⟩
  refine ⟨pairs, ?_⟩
  simp only [decode, check_of_strict strict, Outcome.ok_bind, form, List.drop_succ_cons,
    List.drop_zero, Hex.readDigits_eq_ok pairs]

/-- There are twenty of them. -/
theorem decode_of_strict {text : String} (strict : isStrictAddress text = true) :
    ∃ bytes, decode text = .ok bytes ∧ bytes.length = 20 := by
  obtain ⟨digits, form, length, -⟩ := exists_digits_normalize strict
  obtain ⟨pairs, read⟩ := decode_eq_pairs strict form
  have twice := Hex.length_pairs pairs
  exact ⟨Hex.pairs digits, read, by omega⟩

theorem decode_eq_bytesOf {text : String} (strict : isStrictAddress text = true) :
    decode text = .ok (bytesOf text) := by
  obtain ⟨bytes, read, -⟩ := decode_of_strict strict
  rw [bytesOf_eq read, read]

theorem length_bytesOf {text : String} (strict : isStrictAddress text = true) :
    (bytesOf text).length = 20 := by
  obtain ⟨bytes, read, length⟩ := decode_of_strict strict
  rw [bytesOf_eq read, length]

theorem decode_text (address : Address) : decode address.text = .ok address.bytes :=
  decode_eq_bytesOf address.strict

@[simp] theorem length_bytes (address : Address) : address.bytes.length = 20 :=
  length_bytesOf address.strict

/-- Spellings that differ only in case are read alike. -/
theorem decode_congr {a b : Address} (same : normalize a.text = normalize b.text) :
    decode a.text = decode b.text := by
  rw [decode, decode, check_of_strict a.strict, check_of_strict b.strict, same]

/-- Spellings that differ only in case have the same bytes. -/
theorem bytes_eq_of_normalize {a b : Address} (same : normalize a.text = normalize b.text) :
    a.bytes = b.bytes := by
  have read := decode_congr same
  rw [decode_text, decode_text] at read
  exact Except.ok.inj read

end Address

namespace HexData

/-- The bytes that are written. -/
def content (data : HexData) : Bytes := Hex.pairs (data.text.toList.drop 2)

theorem bytes_eq (data : HexData) : data.bytes = .ok data.content := by
  obtain ⟨text, strict⟩ := data
  unfold Hex.isStrict at strict
  split at strict
  · rename_i rest form
    simp only [bytes, content, Hex.decode, form, Hex.withoutMark, Hex.readDigits_eq_ok strict]
    rfl
  · cases strict

/-- The text of bytes. -/
def ofBytes (bytes : Bytes) : HexData := ⟨Hex.encode bytes, Hex.isStrict_encode bytes⟩

@[simp] theorem content_ofBytes (bytes : Bytes) : (ofBytes bytes).content = bytes := by
  simp only [content, ofBytes, Hex.encode, String.toList_ofList, List.drop_succ_cons,
    List.drop_zero, Hex.pairs_digits]

end HexData

namespace Network

/-- The addresses that payloads depend on have the strict form. -/
structure Strict (network : Network) : Prop where
  wrappedNative : isStrictAddress network.wrappedNative = true
  native : isStrictAddress network.native = true
  receiver : isStrictAddress network.receiver = true

/-- Of a token the network knows the normalized text only. -/
theorem isNative_congr (network : Network) {a b : String}
    (same : Address.normalize a = Address.normalize b) :
    network.isNative a = network.isNative b := by
  rw [isNative, isNative, same]

end Network

end SwapCompiler
