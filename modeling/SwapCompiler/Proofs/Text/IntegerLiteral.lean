import SwapCompiler.Text.IntegerLiteral
import Mathlib.Data.List.TakeWhile
import Mathlib.Data.Nat.Digits.Defs

/-!
# Which texts are integers

A decimal literal is white space, an optional sign, digits with single underscores between
them, and white space again (`IsInteger`). The reader accepts exactly the literals with no
more digits than it may read, and gives the number that the digits write
(`readInteger_eq_ok`). What a natural number is written with is such a literal.
-/

namespace SwapCompiler.Text

/-- Decimal digits of any script with their values, and with single underscores between
them. -/
inductive IsDigitRun : List Char → List Nat → Prop
  | single {c : Char} {digit : Nat} : decimalDigit? c = some digit → IsDigitRun [c] [digit]
  | cons {c : Char} {digit : Nat} {rest : List Char} {digits : List Nat} :
      decimalDigit? c = some digit → IsDigitRun rest digits →
        IsDigitRun (c :: rest) (digit :: digits)
  | underscore {c : Char} {digit : Nat} {rest : List Char} {digits : List Nat} :
      decimalDigit? c = some digit → IsDigitRun rest digits →
        IsDigitRun (c :: '_' :: rest) (digit :: digits)

/-- The sign in front of a literal: a minus, or a plus that may be left out. -/
def IsSign (negative : Bool) (sign : List Char) : Prop :=
  if negative then sign = ['-'] else sign = [] ∨ sign = ['+']

/-- The number written by a sign and digits, the most significant digit first. -/
def signedNumber (negative : Bool) (digits : List Nat) : Int :=
  if negative then -(Nat.ofDigits 10 digits.reverse : Nat)
  else (Nat.ofDigits 10 digits.reverse : Nat)

/-- The text is a decimal literal for the number, and has no more digits than are read. -/
def IsInteger (text : String) (number : Int) : Prop :=
  ∃ front sign run back digits negative,
    text.toList = front ++ (sign ++ (run ++ back)) ∧
      (∀ c ∈ front, isBlank c = true) ∧ (∀ c ∈ back, isBlank c = true) ∧
      IsSign negative sign ∧ IsDigitRun run digits ∧ digits.length ≤ maxLiteralDigits ∧
      number = signedNumber negative digits

/-! ## Characters of a literal -/

/-- A digit stands as far behind a zero as its value says. -/
theorem exists_first_of_digit {c : Char} {digit : Nat} (h : decimalDigit? c = some digit) :
    ∃ first ∈ digitZeros, c.toNat = first + digit ∧ digit < 10 := by
  unfold decimalDigit? at h
  split at h
  · rename_i ascii
    obtain ⟨low, high⟩ := ascii
    have low : 48 ≤ c.toNat := low
    have high : c.toNat ≤ 57 := high
    have unit : '0'.toNat = 48 := rfl
    cases h
    exact ⟨48, by decide, by omega, by omega⟩
  · split at h
    · cases h
    · obtain ⟨first, found, rfl⟩ := Option.map_eq_some_iff.mp h
      have range := List.find?_some found
      rw [Bool.and_eq_true, decide_eq_true_eq, decide_eq_true_eq] at range
      exact ⟨first, List.mem_of_find?_eq_some found, by omega, by omega⟩

/-- What holds of ten characters from every zero on holds of every digit. -/
theorem of_isSome_decimalDigit? {P : Char → Prop}
    (all : ∀ first ∈ digitZeros, ∀ digit < 10, P (Char.ofNat (first + digit))) {c : Char}
    {digit : Nat} (h : decimalDigit? c = some digit) : P c := by
  obtain ⟨first, listed, place, small⟩ := exists_first_of_digit h
  have back := all first listed digit small
  rwa [← place, Char.ofNat_toNat] at back

theorem not_blank_of_decimalDigit {c : Char} {digit : Nat} (h : decimalDigit? c = some digit) :
    isBlank c = false :=
  of_isSome_decimalDigit? (P := fun c => isBlank c = false) (by decide +kernel) h

theorem ne_mark_of_decimalDigit {c : Char} {digit : Nat} (h : decimalDigit? c = some digit) :
    c ≠ '_' ∧ c ≠ '+' ∧ c ≠ '-' :=
  of_isSome_decimalDigit? (P := fun c => c ≠ '_' ∧ c ≠ '+' ∧ c ≠ '-') (by decide +kernel) h

/-- White space is no digit and no underscore. -/
theorem decimalDigit?_of_blank {c : Char} (blank : isBlank c = true) :
    c ≠ '_' ∧ decimalDigit? c = none := by
  constructor
  · rintro rfl
    exact absurd blank (by decide)
  · cases value : decimalDigit? c with
    | none => rfl
    | some digit =>
      rw [not_blank_of_decimalDigit value] at blank
      cases blank

/-! ## Runs of digits -/

namespace IsDigitRun

/-- A run starts with a digit. -/
theorem exists_head {run : List Char} {digits : List Nat} (h : IsDigitRun run digits) :
    ∃ c rest digit, run = c :: rest ∧ decimalDigit? c = some digit := by
  cases h with
  | single value => exact ⟨_, _, _, rfl, value⟩
  | cons value _ => exact ⟨_, _, _, rfl, value⟩
  | underscore value _ => exact ⟨_, _, _, rfl, value⟩

/-- A run is read up to what is neither a digit nor an underscore. -/
theorem digitRun_append {run : List Char} {digits : List Nat} (h : IsDigitRun run digits)
    {back : List Char} (stops : ∀ c ∈ back.head?, c ≠ '_' ∧ decimalDigit? c = none)
    (afterUnderscore : Bool) (read : List Nat) :
    digitRun decimalDigit? afterUnderscore read (run ++ back) =
      some (digits.reverse ++ read, back) := by
  have stop (read : List Nat) : digitRun decimalDigit? false read back = some (read, back) := by
    cases back with
    | nil => rfl
    | cons c rest =>
      obtain ⟨noUnderscore, noDigit⟩ := stops c rfl
      simp only [digitRun, if_neg noUnderscore, noDigit, Bool.false_eq_true, if_false]
  induction h generalizing afterUnderscore read with
  | single value =>
    simp only [List.singleton_append, digitRun, if_neg (ne_mark_of_decimalDigit value).1, value,
      stop]
    rfl
  | cons value _ ih =>
    simp only [List.cons_append, digitRun, if_neg (ne_mark_of_decimalDigit value).1, value, ih,
      List.reverse_cons, List.append_assoc, List.cons_append, List.nil_append]
  | underscore value _ ih =>
    simp only [List.cons_append, digitRun, if_neg (ne_mark_of_decimalDigit value).1, value, ih,
      List.reverse_cons, List.append_assoc, List.nil_append, if_true, Bool.false_eq_true, if_false]

end IsDigitRun

/-- What is read is a run of digits. Behind a digit it may also be nothing, or an underscore
and a run. -/
theorem digitRun_sound {text rest : List Char} {afterUnderscore : Bool} {read digits : List Nat}
    (h : digitRun decimalDigit? afterUnderscore read text = some (digits, rest)) :
    ∃ run more, text = run ++ rest ∧ digits = more.reverse ++ read ∧
      (IsDigitRun run more ∨ afterUnderscore = false ∧
        (run = [] ∧ more = [] ∨ ∃ behind, run = '_' :: behind ∧ IsDigitRun behind more)) := by
  induction text generalizing afterUnderscore read with
  | nil =>
    cases afterUnderscore with
    | true => cases h
    | false =>
      cases h
      exact ⟨[], [], rfl, rfl, .inr ⟨rfl, .inl ⟨rfl, rfl⟩⟩⟩
  | cons c text ih =>
    rw [digitRun] at h
    by_cases underscore : c = '_'
    · rw [if_pos underscore] at h
      cases afterUnderscore with
      | true => cases h
      | false =>
        obtain ⟨run, more, rfl, rfl, isRun | ⟨⟨⟩, -⟩⟩ := ih h
        exact ⟨c :: run, more, rfl, rfl, .inr ⟨rfl, .inr ⟨run, by rw [underscore], isRun⟩⟩⟩
    · rw [if_neg underscore] at h
      cases value : decimalDigit? c with
      | none =>
        rw [value] at h
        cases afterUnderscore with
        | true => cases h
        | false =>
          cases h
          exact ⟨[], [], rfl, rfl, .inr ⟨rfl, .inl ⟨rfl, rfl⟩⟩⟩
      | some digit =>
        rw [value] at h
        obtain ⟨run, more, rfl, rfl, behind⟩ := ih h
        refine ⟨c :: run, digit :: more, rfl, by simp, .inl ?_⟩
        obtain isRun | ⟨-, ⟨rfl, rfl⟩ | ⟨behind, rfl, isRun⟩⟩ := behind
        · exact .cons value isRun
        · exact .single value
        · exact .underscore value isRun

/-! ## Signs -/

theorem splitSign_append {negative : Bool} {sign body : List Char} (isSign : IsSign negative sign)
    (bare : ∀ c ∈ body.head?, c ≠ '+' ∧ c ≠ '-') : splitSign (sign ++ body) = (negative, body) := by
  cases negative with
  | true =>
    have minus : sign = ['-'] := isSign
    rw [minus]
    rfl
  | false =>
    obtain rfl | rfl : sign = [] ∨ sign = ['+'] := isSign
    · cases body with
      | nil => rfl
      | cons c rest =>
        obtain ⟨noPlus, noMinus⟩ := bare c rfl
        unfold splitSign
        split
        · rename_i same
          cases same
          exact absurd rfl noPlus
        · rename_i same
          cases same
          exact absurd rfl noMinus
        · rfl
    · rfl

theorem exists_sign_of_splitSign {text body : List Char} {negative : Bool}
    (h : splitSign text = (negative, body)) :
    ∃ sign, IsSign negative sign ∧ text = sign ++ body := by
  unfold splitSign at h
  split at h
  · cases h
    exact ⟨['+'], .inr rfl, rfl⟩
  · cases h
    exact ⟨['-'], rfl, rfl⟩
  · cases h
    exact ⟨[], .inl rfl, rfl⟩

/-- A sign and a run of digits start with no white space. -/
theorem dropWhile_isBlank_of_signed {negative : Bool} {sign run : List Char} {digits : List Nat}
    (isSign : IsSign negative sign) (isRun : IsDigitRun run digits) (back : List Char) :
    (sign ++ (run ++ back)).dropWhile isBlank = sign ++ (run ++ back) := by
  have start : ∃ c rest, sign ++ (run ++ back) = c :: rest ∧ isBlank c = false := by
    obtain ⟨c, rest, digit, form, value⟩ := isRun.exists_head
    cases negative with
    | true =>
      have minus : sign = ['-'] := isSign
      exact ⟨'-', run ++ back, by rw [minus]; rfl, by decide⟩
    | false =>
      obtain rfl | rfl : sign = [] ∨ sign = ['+'] := isSign
      · exact ⟨c, rest ++ back, by rw [form]; rfl, not_blank_of_decimalDigit value⟩
      · exact ⟨'+', run ++ back, rfl, by decide⟩
  obtain ⟨c, rest, form, dark⟩ := start
  rw [form]
  exact List.dropWhile_cons_of_neg (by rw [dark]; exact Bool.false_ne_true)

/-! ## Literals -/

theorem ofDigits_eq (base : Nat) (digits : List Nat) :
    ofDigits base digits = Nat.ofDigits base digits := by
  rw [ofDigits, List.foldl_reverse, Nat.ofDigits_eq_foldr]
  congr 1
  funext digit value
  simp only [Nat.cast_id]
  omega

/-- Behind white space and a sign, a run of digits and white space are read. -/
theorem readInteger_of_parts {text : String} {negative : Bool} {body back : List Char}
    {digits : List Nat} (signed : splitSign (text.toList.dropWhile isBlank) = (negative, body))
    (run : digitRun decimalDigit? true [] body = some (digits.reverse, back)) {number : Int} :
    readInteger text = .ok number ↔ digits.length ≤ maxLiteralDigits ∧
      (∀ c ∈ back, isBlank c = true) ∧ number = signedNumber negative digits := by
  have value :
      (if negative then -(ofDigits 10 digits.reverse : Int) else ofDigits 10 digits.reverse) =
      signedNumber negative digits := by
    rw [ofDigits_eq, signedNumber]
  simp only [readInteger, signed, run, List.length_reverse, gt_iff_lt]
  by_cases long : maxLiteralDigits < digits.length
  · simp [long, Nat.not_le.mpr long]
  · simp only [if_neg long, value, Nat.not_lt.mp long, true_and, ← List.all_eq_true]
    by_cases blank : back.all isBlank = true
    · simp only [blank, if_true, true_and, Except.ok.injEq]
      exact eq_comm
    · simp [blank]

/-- The reader accepts exactly the literals, and gives their numbers. -/
theorem readInteger_eq_ok {text : String} {number : Int} :
    readInteger text = .ok number ↔ IsInteger text number := by
  constructor
  · intro h
    cases signed : splitSign (text.toList.dropWhile isBlank) with
    | mk negative body =>
      cases run : digitRun decimalDigit? true [] body with
      | none =>
        simp only [readInteger, signed, run] at h
        cases h
      | some found =>
        obtain ⟨read, back⟩ := found
        obtain ⟨sign, isSign, joined⟩ := exists_sign_of_splitSign signed
        obtain ⟨run', digits, rfl, rfl, isRun | ⟨⟨⟩, -⟩⟩ := digitRun_sound run
        rw [List.append_nil] at run
        obtain ⟨short, blank, value⟩ := (readInteger_of_parts signed run).mp h
        refine ⟨text.toList.takeWhile isBlank, sign, run', back, digits, negative, ?_, ?_, blank,
          isSign, isRun, short, value⟩
        · rw [← joined, List.takeWhile_append_dropWhile]
        · exact fun c member => List.mem_takeWhile_imp member
  · rintro ⟨front, sign, run, back, digits, negative, form, before, behind, isSign, isRun, short,
      rfl⟩
    have bare : ∀ c ∈ (run ++ back).head?, c ≠ '+' ∧ c ≠ '-' := by
      obtain ⟨d, rest, digit, start, value⟩ := isRun.exists_head
      rw [start]
      rintro c ⟨⟩
      exact (ne_mark_of_decimalDigit value).2
    have stops : ∀ c ∈ back.head?, c ≠ '_' ∧ decimalDigit? c = none :=
      fun c first => decimalDigit?_of_blank (behind c (List.mem_of_mem_head? first))
    have signed : splitSign (text.toList.dropWhile isBlank) = (negative, run ++ back) := by
      rw [form, List.dropWhile_append_of_pos before, dropWhile_isBlank_of_signed isSign isRun,
        splitSign_append isSign bare]
    have read := isRun.digitRun_append stops true []
    rw [List.append_nil] at read
    exact (readInteger_of_parts signed read).mpr ⟨short, behind, rfl⟩

/-! ## Natural numbers -/

/-- Digits of ASCII make a run. -/
theorem isDigitRun_of_ascii {text : List Char} (some : text ≠ [])
    (ascii : ∀ c ∈ text, c.isDigit = true) :
    IsDigitRun text (text.map fun c => c.toNat - '0'.toNat) := by
  have value {c : Char} (h : c.isDigit = true) :
      decimalDigit? c = Option.some (c.toNat - '0'.toNat) := by
    simp only [Char.isDigit, Bool.and_eq_true, decide_eq_true_eq] at h
    exact if_pos h
  induction text with
  | nil => exact absurd rfl some
  | cons c rest ih =>
    rw [List.forall_mem_cons] at ascii
    cases rest with
    | nil => exact .single (value ascii.1)
    | cons d rest => exact .cons (value ascii.1) (ih (List.cons_ne_nil d rest) ascii.2)

/-- What a natural number is written with is a literal for it. -/
theorem isInteger_natCast {n : Nat} (short : n < 10 ^ maxLiteralDigits) :
    IsInteger (toString n) n := by
  have run := isDigitRun_of_ascii Nat.toDigits_ne_nil
    fun c member => Nat.isDigit_of_mem_toDigits (b := 10) (n := n) (by decide) (by decide) member
  have number :
      Nat.ofDigits 10 ((Nat.toDigits 10 n).map fun c => c.toNat - '0'.toNat).reverse = n :=
    calc Nat.ofDigits 10 ((Nat.toDigits 10 n).map fun c => c.toNat - '0'.toNat).reverse
        = Nat.ofDigitChars 10 (Nat.toDigits 10 n) 0 := by
          rw [← ofDigits_eq, ofDigits, List.reverse_reverse, List.foldl_map, Nat.ofDigitChars]
      _ = n := Nat.ofDigitChars_ten_toDigits
  refine ⟨[], [], _, [], _, false, ?_, by simp, by simp, .inl rfl, run, ?_, ?_⟩
  · rw [Nat.toString_eq_ofList_toDigits, String.toList_ofList, List.append_nil]
    rfl
  · rw [List.length_map]
    exact Nat.toDigits_length 10 n _ (by decide) short
  · rw [signedNumber, if_neg Bool.false_ne_true, number]

end SwapCompiler.Text
