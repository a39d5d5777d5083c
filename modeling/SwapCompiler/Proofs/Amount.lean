import SwapCompiler.Proofs.Ending
import SwapCompiler.Proofs.Schema
import SwapCompiler.Proofs.Text.IntegerLiteral

/-!
# What accepted amounts are worth

An amount that is accepted is kept as a text. The text reads as the number that was given, is
in the range of unsigned 256-bit numbers, and is accepted again as it stands, unless a truth
value was given (`Amount.accepted_reads_iff`): that is kept under its own spelling, which is
no number.
-/

namespace SwapCompiler

/-- The value is a truth value. -/
def Json.IsTruth (json : Json) : Prop := ∃ b, json = .bool b

instance : DecidablePred Json.IsTruth
  | .bool b => isTrue ⟨b, rfl⟩
  | .null | .num _ | .str _ | .arr _ | .obj _ => isFalse (by rintro ⟨b, ⟨⟩⟩)

/-- The values given for the two amounts of a leg or a priced route. -/
def Json.amountFields (json : Json) : List Json :=
  [FieldName.srcAmount, .destAmount].filterMap fun name => json.field? name

namespace Amount

/-- The number that a value stands for where an amount is asked for. -/
inductive StandsFor : Json → Int → Prop
  | whole (number : Int) : StandsFor (.num (.int number)) number
  | text {text : String} {number : Int} : Text.IsInteger text number →
      StandsFor (.str (.unicode text)) number
  | truth (b : Bool) : StandsFor (.bool b) (if b then 1 else 0)

/-- The value is kept as a text that reads as the number it stands for, an unsigned 256-bit
number, and that is accepted as it is. -/
def KeptAs (json : Json) (text : String) : Prop :=
  ∃ number, value text = .ok number ∧ 0 ≤ number ∧ number < 2 ^ 256 ∧ StandsFor json number ∧
    check (.str text) = .ok text

/-- The text is an unsigned 256-bit number. -/
def IsAmount (text : String) : Prop :=
  ∃ number, Text.IsInteger text number ∧ 0 ≤ number ∧ number < 2 ^ 256

/-! ## Texts -/

theorem value_eq_ok {text : String} {number : Int} :
    value text = .ok number ↔ Text.IsInteger text number := by
  rw [← Text.readInteger_eq_ok, value]
  cases Text.readInteger text with
  | ok _ => simp
  | error _ => simp

theorem checkRange_eq_ok {number : Int} {shown text : String} :
    checkRange number shown = .ok text ↔ (0 ≤ number ∧ number < 2 ^ 256) ∧ shown = text := by
  have most : (Abi.maxWord : Int) = 2 ^ 256 - 1 := by decide
  unfold checkRange
  split
  · constructor
    · intro h
      cases h
    · rintro ⟨⟨positive, -⟩, -⟩
      omega
  · split
    · constructor
      · intro h
        cases h
      · rintro ⟨⟨-, small⟩, -⟩
        omega
    · rw [Except.ok.injEq]
      constructor
      · intro same
        exact ⟨⟨by omega, by omega⟩, same⟩
      · exact And.right

/-- A text is accepted exactly if it is an amount, and is kept as it is. -/
theorem check_str_eq_ok {text kept : String} :
    check (.str text) = .ok kept ↔ IsAmount text ∧ text = kept := by
  cases read : Text.readInteger text with
  | ok number =>
    have given := Text.readInteger_eq_ok.mp read
    simp only [check, read, checkRange_eq_ok]
    constructor
    · rintro ⟨range, same⟩
      exact ⟨⟨number, given, range⟩, same⟩
    · rintro ⟨⟨other, isOther, range⟩, same⟩
      have unique := read.symm.trans (Text.readInteger_eq_ok.mpr isOther)
      rw [Except.ok.injEq] at unique
      exact ⟨unique ▸ range, same⟩
  | error _ =>
    simp only [check, read]
    constructor
    · intro h
      cases h
    · rintro ⟨⟨other, isOther, -⟩, -⟩
      rw [Text.readInteger_eq_ok.mpr isOther] at read
      cases read

/-! ## Values -/

/-- A truth value is kept as a word that is no number. -/
theorem not_isAmount_of_check_bool {b : Bool} {text : String} (h : check (.bool b) = .ok text) :
    ¬ IsAmount text := by
  obtain ⟨-, rfl⟩ := checkRange_eq_ok.mp h
  rintro ⟨number, isInteger, -⟩
  have read := Text.readInteger_eq_ok.mpr isInteger
  have word : Text.readInteger (if b then "True" else "False") = .error .malformed := by
    cases b <;> decide +kernel
  rw [word] at read
  cases read

theorem exists_number_of_check {json : Json} {text : String} (h : check json = .ok text)
    (plain : ¬ json.IsTruth) :
    ∃ number, Text.IsInteger text number ∧ (0 ≤ number ∧ number < 2 ^ 256) ∧
      StandsFor json number := by
  cases json with
  | null => cases h
  | bool b => exact absurd ⟨b, rfl⟩ plain
  | num number =>
    cases number with
    | int number =>
      obtain ⟨range, rfl⟩ := checkRange_eq_ok.mp h
      obtain ⟨n, rfl⟩ := Int.eq_ofNat_of_zero_le range.1
      have small : n < 2 ^ 256 := by exact_mod_cast range.2
      have short : n < 10 ^ Text.maxLiteralDigits :=
        calc n < 2 ^ 256 := small
          _ ≤ 10 ^ 256 := Nat.pow_le_pow_left (by decide) 256
          _ ≤ 10 ^ Text.maxLiteralDigits := Nat.pow_le_pow_right (by decide) (by decide)
      exact ⟨n, Text.isInteger_natCast short, range, .whole n⟩
    | float x => cases h
  | str text =>
    cases text with
    | unicode text =>
      obtain ⟨⟨number, isInteger, range⟩, rfl⟩ := check_str_eq_ok.mp h
      exact ⟨number, isInteger, range, .text isInteger⟩
    | unpaired points holds => cases h
  | arr items => cases h
  | obj fields => cases h

/-- What is accepted and no truth value is kept as an amount. -/
theorem isAmount_of_check {json : Json} {text : String} (h : check json = .ok text)
    (plain : ¬ json.IsTruth) : IsAmount text := by
  obtain ⟨number, isInteger, range, -⟩ := exists_number_of_check h plain
  exact ⟨number, isInteger, range⟩

theorem isAmount_iff_of_check {json : Json} {text : String} (h : check json = .ok text) :
    IsAmount text ↔ ¬ json.IsTruth := by
  constructor
  · rintro isAmount ⟨b, rfl⟩
    exact not_isAmount_of_check_bool h isAmount
  · exact isAmount_of_check h

/-- What is accepted is kept as its number, unless it is a truth value. -/
theorem keptAs_iff_of_check {json : Json} {text : String} (h : check json = .ok text) :
    KeptAs json text ↔ ¬ json.IsTruth := by
  constructor
  · rintro ⟨number, -, -, -, -, again⟩
    exact (isAmount_iff_of_check h).mp (check_str_eq_ok.mp again).1
  · intro plain
    obtain ⟨number, isInteger, range, given⟩ := exists_number_of_check h plain
    exact ⟨number, value_eq_ok.mpr isInteger, range.1, range.2, given,
      check_str_eq_ok.mpr ⟨⟨number, isInteger, range⟩, rfl⟩⟩

end Amount

/-! ## Legs -/

theorem Schema.amount_eq_valid {json : Json} {text : String} :
    amount json = .valid text ↔ Amount.check json = .ok text := by
  unfold amount
  cases Amount.check json with
  | ok kept => simp
  | error _ => simp [Checked.broken]

theorem Schema.percent_eq_valid {json : Json} {x : Float} :
    percent json = .valid x ↔ real json = .valid x ∧ 0 < x ∧ x ≤ 100 := by
  rw [percent, Checked.andThen_eq_valid]
  constructor
  · rintro ⟨given, isReal, accepted⟩
    split at accepted
    · split at accepted
      · cases accepted
        exact ⟨isReal, by assumption, by assumption⟩
      · cases accepted
    · cases accepted
  · rintro ⟨isReal, positive, atMost⟩
    exact ⟨x, isReal, by rw [if_pos atMost, if_pos positive]⟩

/-- Two amounts that are accepted are numbers exactly if none was given as a truth value. -/
theorem Json.isAmount_iff_of_fields {json src dest : Json} {srcAmount destAmount : String}
    (srcGiven : json.field? .srcAmount = some src) (destGiven : json.field? .destAmount = some dest)
    (srcKept : Amount.check src = .ok srcAmount) (destKept : Amount.check dest = .ok destAmount) :
    Amount.IsAmount srcAmount ∧ Amount.IsAmount destAmount ↔
      ∀ amount ∈ json.amountFields, ¬ amount.IsTruth := by
  have both : json.amountFields = [src, dest] := by
    simp only [amountFields, List.filterMap_cons, srcGiven, destGiven, List.filterMap_nil]
  rw [both, Amount.isAmount_iff_of_check srcKept, Amount.isAmount_iff_of_check destKept]
  simp

namespace Leg

theorem amountsFit_iff {leg : Leg} :
    leg.AmountsFit ↔ Amount.IsAmount leg.srcAmount ∧ Amount.IsAmount leg.destAmount := by
  simp only [AmountsFit, Amount.IsAmount, Amount.value_eq_ok]

/-- What an accepted leg was made of. -/
theorem of_ofJson {json : Json} {leg : Leg} (h : ofJson json = .valid leg) :
    (∃ src, json.field? .srcAmount = some src ∧ Amount.check src = .ok leg.srcAmount) ∧
      (∃ dest, json.field? .destAmount = some dest ∧ Amount.check dest = .ok leg.destAmount) ∧
      leg.IsShare := by
  simp only [ofJson, Schema.object_eq_valid, Checked.seq_eq_valid, Checked.map_eq_valid,
    Schema.required_eq_valid, Schema.amount_eq_valid, Schema.percent_eq_valid] at h
  obtain ⟨fields, rfl, _, _, ⟨_, _, ⟨_, _, ⟨_, _, ⟨_, _, ⟨_, -, rfl⟩, -, rfl⟩, src, rfl⟩, dest,
    rfl⟩, share, rfl⟩, -, rfl⟩ := h
  obtain ⟨_, -, -, share⟩ := share
  exact ⟨src, dest, share⟩

/-- The amounts of an accepted leg can be read, unless one was given as a truth value. -/
theorem amountsFit_iff_of_ofJson {json : Json} {leg : Leg} (h : ofJson json = .valid leg) :
    leg.AmountsFit ↔ ∀ amount ∈ json.amountFields, ¬ amount.IsTruth := by
  obtain ⟨⟨src, srcGiven, srcKept⟩, ⟨dest, destGiven, destKept⟩, -⟩ := of_ofJson h
  rw [amountsFit_iff, Json.isAmount_iff_of_fields srcGiven destGiven srcKept destKept]

end Leg

/-! ## The main statement -/

namespace Sample

/-- A leg whose amounts are a whole number and a literal in full-width digits. -/
def legWithNumbers : Json :=
  .obj [("srcToken", .str token.text), ("dest_token", .str native.text), ("srcAmount", .int 1000),
    ("dest_amount", .str "９９９"), ("percent", .str "100"), ("note", .bool true)]

end Sample

namespace Amount

/-- An amount that is accepted is kept as the number that was given, an unsigned 256-bit
number, and is accepted again as it is kept, exactly if it was given as no truth value. Neither
amount of an accepted leg fails to be read, exactly if none was given as one. -/
theorem accepted_reads_iff {json : Json} {text : String} (h : check json = .ok text) :
    (KeptAs json text ↔ ¬ json.IsTruth) ∧
      ∀ document leg, Leg.ofJson document = .valid leg →
        (leg.AmountsFit ↔ ∀ amount ∈ document.amountFields, ¬ amount.IsTruth) :=
  ⟨keptAs_iff_of_check h, fun _ _ => Leg.amountsFit_iff_of_ofJson⟩

theorem accepted_reads_of_spaced_literal :
    check (.str " +1_000 ") = .ok " +1_000 " ∧ ¬ (Json.str " +1_000 ").IsTruth ∧
      KeptAs (.str " +1_000 ") " +1_000 " ∧
      ∃ leg, Leg.ofJson Sample.legWithNumbers = .valid leg ∧
        (∀ amount ∈ Sample.legWithNumbers.amountFields, ¬ amount.IsTruth) ∧ leg.AmountsFit := by
  have accepted : check (.str " +1_000 ") = .ok " +1_000 " := by decide +kernel
  have text : ¬ (Json.str " +1_000 ").IsTruth := by decide +kernel
  obtain ⟨leg, valid⟩ := Checked.exists_of_isValid
    (by decide +kernel : (Leg.ofJson Sample.legWithNumbers).isValid = true)
  have plain : ∀ amount ∈ Sample.legWithNumbers.amountFields, ¬ amount.IsTruth := by
    decide +kernel
  obtain ⟨kept, readers⟩ := accepted_reads_iff accepted
  exact ⟨accepted, text, kept.mpr text, leg, valid, plain, (readers _ leg valid).mpr plain⟩

/-- A truth value is accepted, and its word is no number. -/
theorem truth_kept_as_word :
    check (.bool true) = .ok "True" ∧ ∀ number, value "True" ≠ .ok number := by
  have accepted : check (.bool true) = .ok "True" := by decide +kernel
  refine ⟨accepted, fun number read => ?_⟩
  have unread : value "True" = .error (.invalidInteger "True") := by decide +kernel
  rw [unread] at read
  cases read

end Amount

end SwapCompiler
