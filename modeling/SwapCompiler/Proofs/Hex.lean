import SwapCompiler.Hex
import SwapCompiler.Text.LowerCase

/-!
# Pairs of hexadecimal digits

A run of pairs of digits can be read, and is written again with its small letters; of all
texts of its length it alone gives so many bytes. What a digit of either case means for the
tests on the way is settled once, for the 128 characters of ASCII.
-/

namespace SwapCompiler.Hex

/-- The bytes that pairs of digits write. -/
def pairs : List Char → Bytes
  | c :: d :: rest =>
    UInt8.ofNat (16 * (digit? c).getD 0 + (digit? d).getD 0) :: pairs rest
  | _ => []

/-! ## Single digits -/

/-- A digit is a character of ASCII. -/
theorem toNat_lt_of_digit {c : Char} (h : (digit? c).isSome) : c.toNat < 128 := by
  have below (high : Char) (ascii : high.toNat < 128) (bound : c ≤ high) : c.toNat < 128 :=
    Nat.lt_of_le_of_lt bound ascii
  unfold digit? at h
  split at h
  · exact below '9' (by decide) (And.right ‹_›)
  · split at h
    · exact below 'f' (by decide) (And.right ‹_›)
    · split at h
      · exact below 'F' (by decide) (And.right ‹_›)
      · cases h

/-- What holds of the digits among the characters of ASCII holds of every digit. -/
theorem of_isSome_digit? {P : Char → Prop}
    (ascii : ∀ n < 128, (digit? (Char.ofNat n)).isSome → P (Char.ofNat n)) {c : Char}
    (h : (digit? c).isSome) : P c := by
  have back := ascii c.toNat (toNat_lt_of_digit h)
  rw [Char.ofNat_toNat] at back
  exact back h

theorem not_blank_of_digit {c : Char} (h : (digit? c).isSome) : isAsciiBlank c = false :=
  of_isSome_digit? (P := fun c => isAsciiBlank c = false) (by decide) h

theorem ne_underscore_of_digit {c : Char} (h : (digit? c).isSome) : c ≠ '_' :=
  of_isSome_digit? (P := fun c => c ≠ '_') (by decide) h

/-- The small letter of a digit has its value. -/
theorem digit?_smallLetter {c : Char} (h : (digit? c).isSome) :
    digit? (Text.smallLetter c) = digit? c :=
  of_isSome_digit? (P := fun c => digit? (Text.smallLetter c) = digit? c) (by decide) h

theorem smallLetter_smallLetter {c : Char} (h : (digit? c).isSome) :
    Text.smallLetter (Text.smallLetter c) = Text.smallLetter c :=
  of_isSome_digit? (P := fun c => Text.smallLetter (Text.smallLetter c) = Text.smallLetter c)
    (by decide) h

/-! ## Runs of digits -/

theorem digits_smallLetter {text : List Char} (digits : ∀ c ∈ text, (digit? c).isSome) :
    ∀ c ∈ text.map Text.smallLetter, (digit? c).isSome := by
  intro c member
  obtain ⟨d, inside, rfl⟩ := List.mem_map.mp member
  rw [digit?_smallLetter (digits d inside)]
  exact digits d inside

theorem map_smallLetter_smallLetter {text : List Char}
    (digits : ∀ c ∈ text, (digit? c).isSome) :
    (text.map Text.smallLetter).map Text.smallLetter = text.map Text.smallLetter := by
  rw [List.map_map]
  exact List.map_congr_left fun c member => smallLetter_smallLetter (digits c member)

theorem firstWide?_eq_none {text : List Char} (digits : ∀ c ∈ text, (digit? c).isSome)
    (position : Nat) : firstWide? position text = none := by
  induction text generalizing position with
  | nil => rfl
  | cons c rest ih =>
    rw [firstWide?, if_pos (toNat_lt_of_digit (digits c List.mem_cons_self))]
    exact ih (fun d h => digits d (List.mem_cons_of_mem _ h)) _

/-- An even number of digits makes pairs. -/
theorem isPairs_iff {text : List Char} :
    isPairs text = true ↔ text.length % 2 = 0 ∧ ∀ c ∈ text, (digit? c).isSome := by
  fun_induction isPairs text with
  | case1 => simp
  | case2 c => simp
  | case3 c d rest ih =>
    simp only [Bool.and_eq_true, ih, List.length_cons, List.forall_mem_cons]
    constructor
    · rintro ⟨⟨hc, hd⟩, even, digits⟩
      exact ⟨by omega, hc, hd, digits⟩
    · rintro ⟨even, hc, hd, digits⟩
      exact ⟨⟨hc, hd⟩, by omega, digits⟩

theorem length_pairs {text : List Char} (h : isPairs text = true) :
    2 * (pairs text).length = text.length := by
  fun_induction isPairs text with
  | case1 => rfl
  | case2 c => cases h
  | case3 c d rest ih =>
    simp only [Bool.and_eq_true] at h
    simp only [pairs, List.length_cons]
    have tail := ih h.2
    omega

/-- Small letters make the same pairs. -/
theorem isPairs_map_smallLetter {text : List Char} (h : isPairs text = true) :
    isPairs (text.map Text.smallLetter) = true := by
  obtain ⟨even, digits⟩ := isPairs_iff.mp h
  exact isPairs_iff.mpr ⟨by rw [List.length_map, even], digits_smallLetter digits⟩

theorem pairs_map_smallLetter {text : List Char} (h : isPairs text = true) :
    pairs (text.map Text.smallLetter) = pairs text := by
  fun_induction isPairs text with
  | case1 => rfl
  | case2 c => cases h
  | case3 c d rest ih =>
    simp only [Bool.and_eq_true] at h
    simp only [List.map_cons, pairs, digit?_smallLetter h.1.1, digit?_smallLetter h.1.2, ih h.2]

theorem readPairs_eq_ok {text : List Char} (h : isPairs text = true) (position : Nat)
    (read : Bytes) : readPairs position read text = .ok (read.reverse ++ pairs text) := by
  fun_induction isPairs text generalizing position read with
  | case1 => simp [readPairs, pairs]
  | case2 c => cases h
  | case3 c d rest ih =>
    simp only [Bool.and_eq_true] at h
    obtain ⟨high, hc⟩ := Option.isSome_iff_exists.mp h.1.1
    obtain ⟨low, hd⟩ := Option.isSome_iff_exists.mp h.1.2
    simp only [readPairs, not_blank_of_digit h.1.1, Bool.false_eq_true, if_false, hc, hd]
    rw [ih h.2, pairs, hc, hd]
    simp

/-- Pairs of digits are read, and nothing else about them matters. -/
theorem readDigits_eq_ok {text : List Char} (h : isPairs text = true) :
    readDigits text = .ok (pairs text) := by
  rw [readDigits, firstWide?_eq_none (isPairs_iff.mp h).2]
  exact readPairs_eq_ok h 0 []

/-- Characters that are read hold at most one byte for two of them, and exactly so many only if
they are pairs of digits. -/
theorem length_of_readPairs {text : List Char} {position : Nat} {read bytes : Bytes}
    (h : readPairs position read text = .ok bytes) :
    2 * bytes.length ≤ 2 * read.length + text.length ∧
      (2 * bytes.length = 2 * read.length + text.length → isPairs text = true) := by
  fun_induction readPairs position read text with
  | case1 position read =>
    cases h
    simp [isPairs]
  | case2 position read c blank =>
    cases h
    simp only [List.length_reverse, List.length_singleton]
    omega
  | case3 | case4 | case6 | case7 => cases h
  | case5 position read c d rest blank ih =>
    obtain ⟨bound, -⟩ := ih h
    simp only [List.length_cons] at bound ⊢
    omega
  | case8 position read c d rest plain high low hc hd ih =>
    obtain ⟨bound, full⟩ := ih h
    simp only [List.length_cons] at bound full ⊢
    refine ⟨by omega, fun all => ?_⟩
    rw [isPairs, hc, hd, full (by omega)]
    rfl

theorem isPairs_of_readDigits {text : List Char} {bytes : Bytes}
    (h : readDigits text = .ok bytes) (full : 2 * bytes.length = text.length) :
    isPairs text = true := by
  unfold readDigits at h
  split at h
  · cases h
  · refine (length_of_readPairs h).2 ?_
    rw [full, List.length_nil, Nat.mul_zero, Nat.zero_add]

/-! ## Writing -/

theorem digit?_digitOf {value : Nat} (small : value < 16) : digit? (digitOf value) = some value := by
  revert value
  decide

theorem digit?_high (byte : UInt8) : digit? (digitOf (byte.toNat / 16)) = some (byte.toNat / 16) := by
  have bound := byte.toNat_lt
  exact digit?_digitOf (by omega)

theorem digit?_low (byte : UInt8) : digit? (digitOf (byte.toNat % 16)) = some (byte.toNat % 16) :=
  digit?_digitOf (Nat.mod_lt _ (by decide))

theorem digits_cons (byte : UInt8) (rest : Bytes) :
    digits (byte :: rest) =
      digitOf (byte.toNat / 16) :: digitOf (byte.toNat % 16) :: digits rest := rfl

theorem isPairs_digits (bytes : Bytes) : isPairs (digits bytes) = true := by
  induction bytes with
  | nil => rfl
  | cons byte rest ih =>
    rw [digits_cons, isPairs, digit?_high, digit?_low, ih]
    rfl

/-- What is written for bytes reads as these. -/
theorem pairs_digits (bytes : Bytes) : pairs (digits bytes) = bytes := by
  induction bytes with
  | nil => rfl
  | cons byte rest ih =>
    rw [digits_cons, pairs, digit?_high, digit?_low, ih]
    simp only [Option.getD_some, Nat.div_add_mod, UInt8.ofNat_toNat]

/-- The text of bytes has the strict form. -/
theorem isStrict_encode (bytes : Bytes) : isStrict (encode bytes) = true := by
  simp only [isStrict, encode, String.toList_ofList, isPairs_digits]

/-- The value of a digit is written with its small letter. -/
theorem digitOf_of_digit {c : Char} (h : (digit? c).isSome) :
    (digit? c).getD 0 < 16 ∧ digitOf ((digit? c).getD 0) = Text.smallLetter c :=
  of_isSome_digit?
    (P := fun c => (digit? c).getD 0 < 16 ∧ digitOf ((digit? c).getD 0) = Text.smallLetter c)
    (by decide) h

/-- The bytes that pairs of digits write are written with the small letters of these. -/
theorem digits_pairs {text : List Char} (h : isPairs text = true) :
    digits (pairs text) = text.map Text.smallLetter := by
  fun_induction isPairs text with
  | case1 => rfl
  | case2 c => cases h
  | case3 c d rest ih =>
    simp only [Bool.and_eq_true] at h
    obtain ⟨high, writtenHigh⟩ := digitOf_of_digit h.1.1
    obtain ⟨low, writtenLow⟩ := digitOf_of_digit h.1.2
    have byte : (UInt8.ofNat (16 * (digit? c).getD 0 + (digit? d).getD 0)).toNat =
        16 * (digit? c).getD 0 + (digit? d).getD 0 :=
      UInt8.toNat_ofNat_of_lt (show _ < 256 by omega)
    have highHalf : (16 * (digit? c).getD 0 + (digit? d).getD 0) / 16 = (digit? c).getD 0 := by
      omega
    have lowHalf : (16 * (digit? c).getD 0 + (digit? d).getD 0) % 16 = (digit? d).getD 0 := by
      omega
    rw [pairs, digits_cons, ih h.2, byte, highHalf, lowHalf, writtenHigh, writtenLow]
    rfl

end SwapCompiler.Hex
