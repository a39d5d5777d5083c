import SwapCompiler.Proofs.Schema
import SwapCompiler.Request
import SwapCompiler.Service.Rejection
import Mathlib.Data.List.TakeWhile

/-!
# Violations that can be reported

The service reports what stood where a rule was broken, the command line only what is said
about it. Neither can write a surrogate without a partner, and the service no number that is
not finite. A document with finite numbers and ordinary strings at all depths has neither
(`Json.isWellFormed`), so all that is wrong with it can be reported by both
(`Request.reports_ofJson`).
-/

namespace SwapCompiler

/-! ## Well-formed documents -/

namespace Json

mutual

/-- All numbers are finite and all strings are ordinary text, at any depth. -/
def isWellFormed : Json → Bool
  | .null | .bool _ => true
  | .num n => n.isFinite
  | .str text => text.isUnicode
  | .arr items => areWellFormed items
  | .obj fields => haveWellFormed fields

/-- All the values are well-formed. -/
def areWellFormed : List Json → Bool
  | [] => true
  | item :: rest => isWellFormed item && areWellFormed rest

/-- All the fields have ordinary names and well-formed values. -/
def haveWellFormed : Fields → Bool
  | [] => true
  | (name, value) :: rest => (name.isUnicode && isWellFormed value) && haveWellFormed rest

end

theorem isWellFormed_of_lookup {fields : Fields} {name : String} {value : Json}
    (formed : haveWellFormed fields = true) (found : lookup fields name = some value) :
    value.isWellFormed = true := by
  induction fields with
  | nil => cases found
  | cons field rest ih =>
    obtain ⟨key, first⟩ := field
    simp only [haveWellFormed, Bool.and_eq_true] at formed
    rw [lookup_cons] at found
    cases behind : lookup rest name with
    | some last =>
      rw [behind, Option.some_or] at found
      exact ih formed.2 (behind.trans found)
    | none =>
      rw [behind, Option.none_or] at found
      split at found
      · cases found
        exact formed.1.2
      · cases found

end Json

theorem FieldName.isWellFormed_of_find? {name : FieldName} {fields : Json.Fields} {key : String}
    {value : Json} (formed : Json.haveWellFormed fields = true)
    (found : name.find? fields = some (key, value)) : value.isWellFormed = true := by
  rw [FieldName.find?] at found
  cases wire : Json.lookup fields name.wire with
  | some first =>
    rw [wire] at found
    cases found
    exact Json.isWellFormed_of_lookup formed wire
  | none =>
    rw [wire, Option.map_eq_some_iff] at found
    obtain ⟨first, plain, same⟩ := found
    cases same
    exact Json.isWellFormed_of_lookup formed plain

namespace Service

mutual

/-- The service can report any well-formed value. -/
theorem isReportable_of_isWellFormed {json : Json} (formed : json.isWellFormed = true) :
    isReportable json = true := by
  cases json with
  | null | bool b => rfl
  | num n => exact formed
  | str text => exact formed
  | arr items => exact areReportable_of_areWellFormed formed
  | obj fields => exact haveReportable_of_haveWellFormed formed

theorem areReportable_of_areWellFormed {items : List Json}
    (formed : Json.areWellFormed items = true) : areReportable items = true := by
  cases items with
  | nil => rfl
  | cons item rest =>
    simp only [Json.areWellFormed, Bool.and_eq_true] at formed
    rw [areReportable, isReportable_of_isWellFormed formed.1,
      areReportable_of_areWellFormed formed.2]
    rfl

theorem haveReportable_of_haveWellFormed {fields : Json.Fields}
    (formed : Json.haveWellFormed fields = true) : haveReportable fields = true := by
  cases fields with
  | nil => rfl
  | cons field rest =>
    obtain ⟨name, value⟩ := field
    simp only [Json.haveWellFormed, Bool.and_eq_true] at formed
    rw [haveReportable, formed.1.1, isReportable_of_isWellFormed formed.1.2,
      haveReportable_of_haveWellFormed formed.2]
    rfl

end

end Service

/-! ## Reporting checks -/

/-- The service can report what stood there, and the command line what is said about it. -/
structure Violation.IsReportable (violation : Violation) : Prop where
  input : Service.isReportable violation.input = true
  message : violation.obstacle? = none

/-- All violations, if there are any, can be reported. -/
def Checked.Reports {α : Type} : Checked α → Prop
  | .valid _ => True
  | .invalid violations => ∀ violation ∈ violations, violation.IsReportable

namespace Checked

variable {α β : Type}

theorem Reports.map {x : Checked α} (reports : x.Reports) (f : α → β) : (x.map f).Reports := by
  cases x with
  | valid a => exact trivial
  | invalid violations => exact reports

theorem Reports.seq {f : Checked (α → β)} {x : Checked α} (first : f.Reports)
    (second : x.Reports) : (f <*> x).Reports := by
  cases f with
  | valid g =>
    cases x with
    | valid a => exact trivial
    | invalid violations => exact second
  | invalid violations =>
    cases x with
    | valid a => exact first
    | invalid others =>
      intro violation member
      exact (List.mem_append.mp member).elim (first violation) (second violation)

theorem Reports.andThen {x : Checked α} {next : α → Checked β} (first : x.Reports)
    (second : ∀ a, (next a).Reports) : (x.andThen next).Reports := by
  cases x with
  | valid a => exact second a
  | invalid violations => exact first

theorem Reports.within {x : Checked α} (reports : x.Reports) (step : Step) :
    (x.within step).Reports := by
  cases x with
  | valid a => exact trivial
  | invalid violations =>
    intro violation member
    obtain ⟨inner, inside, rfl⟩ := List.mem_map.mp member
    exact ⟨(reports inner inside).input, (reports inner inside).message⟩

theorem reports_broken {rule : Rule} {json : Json} (formed : json.isWellFormed = true)
    (message : Violation.obstacle? ⟨[], rule, json⟩ = none) :
    (broken rule json : Checked α).Reports := by
  intro violation member
  obtain rfl := List.mem_singleton.mp member
  exact ⟨Service.isReportable_of_isWellFormed formed, message⟩

end Checked

namespace Schema

variable {α : Type} {fields : Json.Fields} {name : FieldName}

/-- The check reports all that is wrong with a well-formed value. -/
def Reports (check : Json → Checked α) : Prop :=
  ∀ json : Json, json.isWellFormed = true → (check json).Reports

theorem reports_required {check : Json → Checked α} (reports : Reports check)
    (formed : Json.haveWellFormed fields = true) : (required fields name check).Reports := by
  unfold required
  split
  · rename_i key value found
    exact (reports value (FieldName.isWellFormed_of_find? formed found)).within _
  · intro violation member
    obtain rfl := List.mem_singleton.mp member
    exact ⟨Service.isReportable_of_isWellFormed formed, rfl⟩

theorem reports_defaulted {default : α} {check : Json → Checked α} (reports : Reports check)
    (formed : Json.haveWellFormed fields = true) :
    (defaulted fields name default check).Reports := by
  unfold defaulted
  split
  · rename_i key value found
    exact (reports value (FieldName.isWellFormed_of_find? formed found)).within _
  · exact trivial

theorem reports_object {model : String} {check : Json.Fields → Checked α}
    (reports : ∀ fields, Json.haveWellFormed fields = true → (check fields).Reports) :
    Reports (object model check) := by
  intro json formed
  cases json with
  | obj fields => exact reports fields formed
  | _ => exact Checked.reports_broken formed rfl

theorem reports_items {check : Json → Checked α} (reports : Reports check) {values : List Json}
    (formed : Json.areWellFormed values = true) (position : Nat) :
    (items check position values).Reports := by
  induction values generalizing position with
  | nil => exact trivial
  | cons value rest ih =>
    simp only [Json.areWellFormed, Bool.and_eq_true] at formed
    exact (((reports value formed.1).within _).map _).seq (ih formed.2 _)

theorem reports_list {check : Json → Checked α} (reports : Reports check) :
    Reports (list check) := by
  intro json formed
  cases json with
  | arr values => exact reports_items reports formed 0
  | _ => exact Checked.reports_broken formed rfl

theorem reports_nullable {check : Json → Checked α} (reports : Reports check) :
    Reports (nullable check) := by
  intro json formed
  cases json with
  | null => exact trivial
  | _ => exact (reports _ formed).map _

/-! ## Scalars -/

theorem reports_text : Reports text := by
  intro json formed
  cases json with
  | str text => exact trivial
  | _ => exact Checked.reports_broken formed rfl

theorem reports_address : Reports address := by
  intro json formed
  unfold address
  split
  · split
    · exact trivial
    · exact Checked.reports_broken formed rfl
  · exact Checked.reports_broken formed rfl
  · exact Checked.reports_broken formed rfl

theorem reports_hexData : Reports hexData := by
  intro json formed
  unfold hexData
  split
  · split
    · exact trivial
    · exact Checked.reports_broken formed rfl
  · exact Checked.reports_broken formed rfl
  · exact Checked.reports_broken formed rfl

theorem reports_executor : Reports executor := by
  intro json formed
  unfold executor
  split
  · split
    · exact trivial
    · exact Checked.reports_broken formed rfl
  · exact Checked.reports_broken formed rfl

theorem reports_real : Reports real := by
  intro json formed
  unfold real
  split
  · exact trivial
  · split
    · exact trivial
    · exact Checked.reports_broken formed rfl
  · exact trivial
  · split
    · exact trivial
    · exact Checked.reports_broken formed rfl
  · exact Checked.reports_broken formed rfl
  · exact Checked.reports_broken formed rfl

theorem reports_percent : Reports percent := by
  intro json formed
  refine (reports_real json formed).andThen fun x => ?_
  split
  · split
    · exact trivial
    · exact Checked.reports_broken formed rfl
  · exact Checked.reports_broken formed rfl

theorem message_of_wholeOfReal {x : Float} {rule : Rule} (h : wholeOfReal x = .error rule)
    (json : Json) : Violation.obstacle? ⟨[], rule, json⟩ = none := by
  unfold wholeOfReal at h
  split at h
  · cases h
    rfl
  · cases h
    rfl
  · dsimp only at h
    split at h
    · cases h
      rfl
    · split at h
      · cases h
      · cases h
        rfl

theorem reports_whole : Reports whole := by
  intro json formed
  unfold whole
  split
  · exact trivial
  · split
    · exact trivial
    · rename_i refused
      exact Checked.reports_broken formed (message_of_wholeOfReal refused _)
  · exact trivial
  · split
    · exact trivial
    · exact Checked.reports_broken formed rfl
    · exact Checked.reports_broken formed rfl
  · exact Checked.reports_broken formed rfl
  · exact Checked.reports_broken formed rfl

theorem reports_byte : Reports byte := by
  intro json formed
  refine (reports_whole json formed).andThen fun n => ?_
  split
  · exact Checked.reports_broken formed rfl
  · split
    · exact Checked.reports_broken formed rfl
    · exact trivial

theorem reports_truth : Reports truth := by
  intro json formed
  have text : (Checked.broken .truthText json : Checked Bool).Reports :=
    Checked.reports_broken formed rfl
  have other : (Checked.broken .truth json : Checked Bool).Reports :=
    Checked.reports_broken formed rfl
  cases json with
  | bool b => exact trivial
  | num number =>
    cases number with
    | int n =>
      simp only [truth]
      split
      · exact trivial
      · split
        · exact trivial
        · split
          · exact text
          · exact other
    | float x =>
      simp only [truth]
      split
      · split
        · exact trivial
        · split
          · exact trivial
          · exact text
      · exact other
  | str string =>
    cases string with
    | unicode word =>
      simp only [truth]
      split
      · exact trivial
      · split
        · exact trivial
        · exact text
    | unpaired points holds => exact Checked.reports_broken formed rfl
  | null => exact other
  | arr items => exact other
  | obj fields => exact other

/-- A text that is refused as an amount is the one that was given. -/
theorem eq_str_of_notDecimal {json : Json} {text : JsonString}
    (h : Amount.check json = .error (.notDecimal text)) : json = .str text := by
  have inRange {number : Int} {shown : String} :
      Amount.checkRange number shown ≠ .error (.notDecimal text) := by
    unfold Amount.checkRange
    split
    · exact nofun
    · split <;> exact nofun
  unfold Amount.check at h
  split at h
  · exact absurd h inRange
  · exact absurd h inRange
  · split at h
    · exact absurd h inRange
    · cases h
      rfl
  · cases h
    rfl
  all_goals cases h

theorem isUnicode_message {json : Json} {error : Amount.Error} (formed : json.isWellFormed = true)
    (h : Amount.check json = .error error) : error.message.isUnicode = true := by
  cases error with
  | wrongType type => rfl
  | negative shown => rfl
  | tooLarge shown => rfl
  | notDecimal text =>
    obtain rfl := eq_str_of_notDecimal h
    cases text with
    | unicode given => rfl
    | unpaired points holds => cases formed

/-- Ordinary text can be written. -/
theorem obstacle?_points {text : JsonString} (ordinary : text.isUnicode = true) :
    Text.Charset.utf8.obstacle? text.points = none := by
  cases text with
  | unpaired points holds => cases ordinary
  | unicode given =>
    have all : (given.toList.map Text.CodePoint.char).takeWhile Text.Charset.utf8.accepts =
        given.toList.map .char := by
      rw [List.takeWhile_eq_self_iff]
      intro point member
      obtain ⟨c, -, rfl⟩ := List.mem_map.mp member
      rfl
    simp only [Text.Charset.obstacle?, JsonString.points, all, List.drop_length]

theorem reports_amount : Reports amount := by
  intro json formed
  unfold amount
  split
  · exact trivial
  · rename_i error refused
    exact Checked.reports_broken formed (obstacle?_points (isUnicode_message formed refused))

end Schema

/-! ## Requests -/

open Schema

theorem Leg.reports_ofJson : Reports Leg.ofJson := by
  refine reports_object fun fields formed =>
    .seq (.seq (.seq (.seq (.seq (.map ?_ _) ?_) ?_) ?_) ?_) ?_
  · exact reports_required reports_address formed
  · exact reports_required reports_address formed
  · exact reports_required reports_amount formed
  · exact reports_required reports_amount formed
  · exact reports_required reports_percent formed
  · exact reports_defaulted (reports_nullable reports_text) formed

theorem Route.reports_ofJson : Reports Route.ofJson := by
  refine reports_object fun fields formed => .seq (.map ?_ _) ?_
  · exact reports_defaulted (fun json formed => (reports_percent json formed).map _) formed
  · exact reports_defaulted (reports_list Leg.reports_ofJson) formed

theorem PriceRoute.reports_ofJson : Reports PriceRoute.ofJson := by
  refine reports_object fun fields formed => .seq (.seq (.seq (.seq (.map ?_ _) ?_) ?_) ?_) ?_
  · exact reports_required reports_address formed
  · exact reports_required reports_address formed
  · exact reports_required reports_amount formed
  · exact reports_required reports_amount formed
  · exact reports_defaulted (reports_list Route.reports_ofJson) formed

theorem CallTemplate.reports_ofJson : Reports CallTemplate.ofJson := by
  refine reports_object fun fields formed => .seq (.seq (.seq (.seq (.map ?_ _) ?_) ?_) ?_) ?_
  · exact reports_required reports_address formed
  · exact reports_required reports_hexData formed
  · exact reports_defaulted reports_truth formed
  · exact reports_defaulted reports_truth formed
  · exact reports_defaulted reports_byte formed

theorem WrapCall.reports_ofJson : Reports WrapCall.ofJson := by
  refine reports_object fun fields formed => .seq (.map ?_ _) ?_
  · exact reports_required reports_address formed
  · exact reports_required reports_hexData formed

theorem WrapTemplates.reports_ofJson : Reports WrapTemplates.ofJson := by
  refine reports_object fun fields formed => .seq (.map ?_ _) ?_
  · exact reports_defaulted (reports_nullable WrapCall.reports_ofJson) formed
  · exact reports_defaulted (reports_nullable WrapCall.reports_ofJson) formed

/-- All that is wrong with a well-formed document as a request can be reported. -/
theorem Request.reports_ofJson : Reports Request.ofJson := by
  refine reports_object fun fields formed => .seq (.seq (.seq (.seq (.map ?_ _) ?_) ?_) ?_) ?_
  · exact reports_required PriceRoute.reports_ofJson formed
  · exact reports_required (reports_list CallTemplate.reports_ofJson) formed
  · exact reports_required reports_address formed
  · exact reports_defaulted (reports_nullable WrapTemplates.reports_ofJson) formed
  · exact reports_defaulted reports_executor formed

end SwapCompiler
