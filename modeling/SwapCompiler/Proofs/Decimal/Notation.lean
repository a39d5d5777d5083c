import SwapCompiler.Proofs.Decimal
import SwapCompiler.Proofs.Text.IntegerLiteral
import SwapCompiler.Text.RealLiteral

/-!
# A written decimal reads back

The text of a decimal is a real literal, whether its point stands among the digits or behind the
first, with an exponent. What the literal says before any binary number is looked for is a decimal
again (`Decimal.read?`), which may have more zeros, and stands for the same number
(`Decimal.exists_read?_write`). The binary number is then the one nearest to this decimal
(`Decimal.readPlainReal?_of_read?`).
-/

namespace SwapCompiler

/-! ## Literals of digits -/

namespace Text

/-- The decimal that an unsigned literal of digits spells out. -/
def magnitude? (negative : Bool) (text : List Char) : Option Decimal :=
  let whole := text.takeWhile isAsciiDigit
  let behind := text.dropWhile isAsciiDigit
  let (fraction, behind) := match behind with
    | '.' :: rest => (rest.takeWhile isAsciiDigit, rest.dropWhile isAsciiDigit)
    | _ => ([], behind)
  if whole.isEmpty && fraction.isEmpty then none
  else (readPower? behind).map fun power =>
    ⟨negative, asciiValue (whole ++ fraction), power - fraction.length⟩

/-- The number of a literal is the binary number nearest to this decimal. -/
theorem readMagnitude?_eq (negative : Bool) (text : List Char) :
    readMagnitude? negative text = (magnitude? negative text).map Decimal.toFloat := by
  simp only [readMagnitude?, magnitude?, apply_ite (Option.map Decimal.toFloat), Option.map_none,
    Option.map_map]
  rfl

/-- All characters are digits of ASCII. -/
def AreDigits (text : List Char) : Prop := ∀ c ∈ text, isAsciiDigit c = true

/-- The text does not go on with a digit. -/
def EndsDigits (text : List Char) : Prop := ∀ c ∈ text.head?, isAsciiDigit c = false

variable {digits whole fraction behind : List Char} {power : Int}

theorem takeWhile_digits (areDigits : AreDigits digits) (ends : EndsDigits behind) :
    (digits ++ behind).takeWhile isAsciiDigit = digits ∧
      (digits ++ behind).dropWhile isAsciiDigit = behind := by
  rw [List.takeWhile_append_of_pos areDigits, List.dropWhile_append_of_pos areDigits]
  cases behind with
  | nil => simp
  | cons c rest => simp [ends c rfl]

theorem magnitude?_of_whole (negative : Bool) (areDigits : AreDigits whole) (nonempty : whole ≠ [])
    (ends : EndsDigits behind) (noPoint : behind.head? ≠ some '.')
    (read : readPower? behind = some power) :
    magnitude? negative (whole ++ behind) = some ⟨negative, asciiValue whole, power⟩ := by
  obtain ⟨front, back⟩ := takeWhile_digits areDigits ends
  simp only [magnitude?, front, back]
  split
  · exact absurd rfl noPoint
  · simp [nonempty, read]

theorem magnitude?_of_fraction (negative : Bool) (areDigits : AreDigits whole) (nonempty : whole ≠ [])
    (areDigits' : AreDigits fraction) (ends : EndsDigits behind)
    (read : readPower? behind = some power) :
    magnitude? negative (whole ++ '.' :: (fraction ++ behind)) =
      some ⟨negative, asciiValue (whole ++ fraction), power - fraction.length⟩ := by
  have point : EndsDigits ('.' :: (fraction ++ behind)) := by
    rintro c ⟨⟩
    rfl
  obtain ⟨front, back⟩ := takeWhile_digits areDigits point
  obtain ⟨front', back'⟩ := takeWhile_digits areDigits' ends
  simp [magnitude?, front, back, front', back', nonempty, read]

/-! ## Digits and their numbers -/

theorem asciiValue_eq (digits : List Char) : asciiValue digits = Nat.ofDigitChars 10 digits 0 := rfl

theorem asciiValue_digitsOf (n : Nat) : asciiValue (Decimal.digitsOf n) = n := by
  rw [asciiValue_eq, Decimal.digitsOf, Nat.ofDigitChars_ten_toDigits]

theorem asciiValue_zeros_append (count : Nat) (digits : List Char) :
    asciiValue (List.replicate count '0' ++ digits) = asciiValue digits := by
  rw [asciiValue_eq, asciiValue_eq, Nat.ofDigitChars_append, Nat.ofDigitChars_replicate_zero,
    Nat.mul_zero]

theorem asciiValue_append_zeros (count : Nat) (digits : List Char) :
    asciiValue (digits ++ List.replicate count '0') = 10 ^ count * asciiValue digits := by
  rw [asciiValue_eq, asciiValue_eq, Nat.ofDigitChars_append, Nat.ofDigitChars_replicate_zero]

theorem areDigits_digitsOf (n : Nat) : AreDigits (Decimal.digitsOf n) :=
  fun _ member => Nat.isDigit_of_mem_toDigits (by decide) (by decide) member

theorem areDigits_zeros (count : Nat) : AreDigits (List.replicate count '0') := by
  intro c member
  rw [List.eq_of_mem_replicate member]
  rfl

theorem AreDigits.append (front : AreDigits whole) (back : AreDigits fraction) :
    AreDigits (whole ++ fraction) :=
  List.forall_mem_append.mpr ⟨front, back⟩

theorem digitsOf_ne_nil (n : Nat) : Decimal.digitsOf n ≠ [] := Nat.toDigits_ne_nil

/-- An exponent with a sign and leading zeros. -/
theorem readPower?_signed (power : Int) (count : Nat) :
    readPower? ('e' :: (if power < 0 then '-' else '+') ::
      (List.replicate count '0' ++ Decimal.digitsOf power.natAbs)) = some power := by
  have nonempty : List.replicate count '0' ++ Decimal.digitsOf power.natAbs ≠ [] := by
    simp [digitsOf_ne_nil]
  have digits : (List.replicate count '0' ++ Decimal.digitsOf power.natAbs).all isAsciiDigit =
      true :=
    List.all_eq_true.mpr ((areDigits_zeros count).append (areDigits_digitsOf _))
  have value : asciiValue (List.replicate count '0' ++ Decimal.digitsOf power.natAbs) =
      power.natAbs := by
    rw [asciiValue_zeros_append, asciiValue_digitsOf]
  generalize List.replicate count '0' ++ Decimal.digitsOf power.natAbs = written
    at nonempty digits value
  have sign : splitSign ((if power < 0 then '-' else '+') :: written) =
      (decide (power < 0), written) := by
    by_cases negative : power < 0
    · simp [negative, splitSign]
    · simp [negative, splitSign]
  simp only [readPower?, sign, decide_true, Bool.true_or, Bool.true_and, digits, value,
    List.isEmpty_eq_false_iff.mpr nonempty, Bool.not_false, if_true, decide_eq_true_eq]
  congr 1
  split <;> omega

end Text

namespace Decimal

open Text

/-! ## The two notations -/

/-- Zeros behind the digits are made up for by the exponent. -/
theorem value_append_zeros (negative : Bool) (n : Nat) (exponent : Int) (count : Nat) :
    value ⟨negative, 10 ^ count * n, exponent - count⟩ = value ⟨negative, n, exponent⟩ := by
  have shift : ((10 ^ count * n : Nat) : ℚ) * 10 ^ (exponent - count) = n * 10 ^ exponent := by
    rw [zpow_sub₀ (by norm_num), zpow_natCast]
    push_cast
    field_simp
  cases negative with
  | false => exact shift
  | true => exact congrArg Neg.neg shift

/-- The point stands behind the first `place` digits, zeros being filled in. -/
theorem exists_magnitude?_pointed (negative : Bool) (n : Nat) (place : Int) :
    ∃ d, magnitude? negative (pointed (digitsOf n) place) = some d ∧
      d.value = value ⟨negative, n, place - (digitsOf n).length⟩ := by
  have areDigits := areDigits_digitsOf n
  have nonempty := digitsOf_ne_nil n
  have read := asciiValue_digitsOf n
  generalize digitsOf n = digits at areDigits nonempty read
  have ends : EndsDigits [] := by rintro c ⟨⟩
  unfold pointed
  by_cases front : place ≤ 0
  · have literal := magnitude?_of_fraction negative (areDigits_zeros 1) (by simp)
      ((areDigits_zeros (-place).toNat).append areDigits) ends rfl
    rw [List.append_nil, asciiValue_zeros_append, asciiValue_zeros_append, read,
      List.length_append, List.length_replicate] at literal
    rw [if_pos front]
    refine ⟨_, literal, congrArg (fun exponent => value ⟨negative, n, exponent⟩) ?_⟩
    omega
  rw [if_neg front]
  by_cases behind : digits.length ≤ place.toNat
  · have literal := magnitude?_of_fraction negative
      (areDigits.append (areDigits_zeros (place.toNat - digits.length)))
      (by simp [nonempty]) (areDigits_zeros 1) ends rfl
    rw [List.append_nil, asciiValue_append_zeros, asciiValue_append_zeros, read,
      List.length_replicate] at literal
    rw [if_pos behind]
    refine ⟨_, literal, ?_⟩
    have whole : (0 : Int) =
        place - digits.length - (place.toNat - digits.length : Nat) := by omega
    rw [← value_append_zeros negative n _ (place.toNat - digits.length), ← whole]
    exact value_append_zeros negative _ 0 1
  · have whole : AreDigits (digits.take place.toNat) :=
      fun c member => areDigits c (List.mem_of_mem_take member)
    have fraction : AreDigits (digits.drop place.toNat) :=
      fun c member => areDigits c (List.mem_of_mem_drop member)
    have literal := magnitude?_of_fraction negative whole (by simp [nonempty]; omega) fraction ends
      rfl
    rw [List.append_nil, List.take_append_drop, read, List.length_drop] at literal
    rw [if_neg behind]
    refine ⟨_, literal, congrArg (fun exponent => value ⟨negative, n, exponent⟩) ?_⟩
    omega

/-- The point stands behind the first digit, if there are others. -/
theorem magnitude?_scientific (negative : Bool) (n : Nat) (power : Int) :
    magnitude? negative (scientific layout (digitsOf n) power) =
      some ⟨negative, n, power + 1 - (digitsOf n).length⟩ := by
  have areDigits := areDigits_digitsOf n
  have nonempty := digitsOf_ne_nil n
  have read := asciiValue_digitsOf n
  generalize digitsOf n = digits at areDigits nonempty read
  have mark := readPower?_signed power (layout.exponentDigits - (digitsOf power.natAbs).length)
  have ends (rest : List Char) : EndsDigits ('e' :: rest) := by
    rintro c ⟨⟩
    rfl
  match digits, nonempty with
  | [digit], _ =>
    have literal := magnitude?_of_whole negative areDigits (by simp) (ends _) (by simp) mark
    rw [read] at literal
    exact literal.trans (by simp)
  | digit :: next :: rest, _ =>
    have first : AreDigits [digit] := fun c member => areDigits c (List.mem_append_left _ member)
    have others : AreDigits (next :: rest) := fun c member =>
      areDigits c (List.mem_cons_of_mem _ member)
    have literal := magnitude?_of_fraction negative first (by simp) others (ends _) mark
    rw [List.singleton_append, List.singleton_append, read] at literal
    refine Eq.trans literal ?_
    have exponent : power - (next :: rest).length = power + 1 - (digit :: next :: rest).length := by
      simp only [List.length_cons]
      omega
    rw [exponent]

/-! ## Reading a text -/

/-- The decimal that a literal of digits spells out, with an optional sign. -/
def read? (text : String) : Option Decimal :=
  let (negative, body) := splitSign text.toList
  magnitude? negative body

/-- A literal of digits begins with one, or with its point. -/
theorem exists_head_of_magnitude? {negative : Bool} {body : List Char} {d : Decimal}
    (read : magnitude? negative body = some d) :
    ∃ first rest, body = first :: rest ∧ (isAsciiDigit first = true ∨ first = '.') := by
  cases body with
  | nil => cases read
  | cons first rest =>
    refine ⟨first, rest, rfl, ?_⟩
    by_contra other
    obtain ⟨noDigit, noPoint⟩ := not_or.mp other
    simp [magnitude?, noDigit, noPoint] at read

/-- Neither is changed by lower case. -/
theorem toLower_of_head {c : Char} (head : isAsciiDigit c = true ∨ c = '.') : c.toLower = c := by
  apply dif_neg
  rintro ⟨above, -⟩
  rcases head with digit | rfl
  · rw [isAsciiDigit, Bool.and_eq_true, decide_eq_true_eq, decide_eq_true_eq] at digit
    exact absurd (Nat.le_trans above digit.2) (by decide)
  · exact absurd above (by decide)

/-- An unsigned literal has no sign in front. -/
theorem bare_of_magnitude? {negative : Bool} {body : List Char} {d : Decimal}
    (read : magnitude? negative body = some d) : ∀ c ∈ body.head?, c ≠ '+' ∧ c ≠ '-' := by
  obtain ⟨first, rest, rfl, head⟩ := exists_head_of_magnitude? read
  rintro c ⟨⟩
  constructor
  · rintro rfl
    exact absurd head (by decide)
  · rintro rfl
    exact absurd head (by decide)

/-- What spells out a decimal is read as the binary number nearest to it. -/
theorem readPlainReal?_of_read? {text : String} {d : Decimal} (read : read? text = some d) :
    readPlainReal? text.toList = some d.toFloat := by
  cases split : splitSign text.toList with
  | mk negative body =>
    simp only [read?, split] at read
    obtain ⟨first, rest, rfl, head⟩ := exists_head_of_magnitude? read
    -- the words begin with letters
    have other (word : String) (letter : word.toList.head? = some 'i' ∨
        word.toList.head? = some 'n') :
        String.ofList ((first :: rest).map Char.toLower) ≠ word := by
      rintro rfl
      rw [String.toList_ofList, List.map_cons, List.head?_cons, toLower_of_head head] at letter
      rcases letter with same | same
      · cases same
        exact absurd head (by decide)
      · cases same
        exact absurd head (by decide)
    have inf := other "inf" (by decide)
    have infinity := other "infinity" (by decide)
    have nan := other "nan" (by decide)
    simp only [readPlainReal?, split, inf, infinity, nan, decide_false, Bool.or_self,
      Bool.false_eq_true, if_false, readMagnitude?_eq, read, Option.map_some]
/-- A minus stands in front of what is below zero. -/
theorem read?_signed {negative : Bool} {body : List Char} {d : Decimal}
    (read : magnitude? negative body = some d) :
    read? (String.ofList (if negative then '-' :: body else body)) = some d := by
  rw [read?, String.toList_ofList]
  cases negative with
  | true => exact read
  | false =>
    have isSign : IsSign false [] := .inl rfl
    have split := splitSign_append isSign (bare_of_magnitude? read)
    rw [List.nil_append] at split
    rw [if_neg Bool.false_ne_true, split]
    exact read

/-- In either notation the exponent is that of the last digit. -/
theorem exists_magnitude?_body (negative : Bool) (n : Nat) (power : Int) :
    ∃ d, magnitude? negative
        (if layout.leastPositional ≤ power ∧ power ≤ layout.mostPositional then
          pointed (digitsOf n) (power + 1)
        else scientific layout (digitsOf n) power) = some d ∧
      d.value = value ⟨negative, n, power + 1 - (digitsOf n).length⟩ := by
  by_cases positional : layout.leastPositional ≤ power ∧ power ≤ layout.mostPositional
  · rw [if_pos positional]
    exact exists_magnitude?_pointed negative n (power + 1)
  · rw [if_neg positional]
    exact ⟨_, magnitude?_scientific negative n power, rfl⟩

/-- A written decimal reads back as a decimal for the same number. -/
theorem exists_read?_write (d : Decimal) :
    ∃ e, read? (d.write layout) = some e ∧ e.value = d.value := by
  obtain ⟨negative, n, exponent⟩ := d
  obtain ⟨e, read, same⟩ := exists_magnitude?_body negative n
    (if n = 0 then 0 else exponent + (digitsOf n).length - 1)
  refine ⟨e, read?_signed read, same.trans ?_⟩
  -- zero is written with one exponent, whichever it has
  by_cases zero : n = 0
  · subst zero
    cases negative <;> simp [value]
  · rw [if_neg zero]
    congr 2
    omega

end Decimal

end SwapCompiler
