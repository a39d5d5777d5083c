import SwapCompiler.Schema.Route
import Mathlib.Data.List.Forall2
import Mathlib.Data.List.Pairwise

/-!
# What checks accept

A check of several fields accepts an object if each of its fields is accepted, and gives the
values of the fields. The lemmas here take an accepted value apart, field by field and item by
item. At the end stands the other way: what is written under the names of the fields is found
under them again, in either style.
-/

namespace SwapCompiler

/-! ## Accepted values -/

namespace Checked

variable {α β : Type}

theorem map_eq_valid {f : α → β} {x : Checked α} {b : β} :
    f <$> x = .valid b ↔ ∃ a, x = .valid a ∧ f a = b := by
  cases x with
  | valid a =>
    constructor
    · intro h
      cases h
      exact ⟨a, rfl, rfl⟩
    · rintro ⟨_, ⟨⟩, rfl⟩
      rfl
  | invalid violations =>
    constructor
    · intro h
      cases h
    · rintro ⟨_, ⟨⟩, -⟩

theorem seq_eq_valid {f : Checked (α → β)} {x : Checked α} {b : β} :
    f <*> x = .valid b ↔ ∃ g a, f = .valid g ∧ x = .valid a ∧ g a = b := by
  cases f with
  | valid g =>
    cases x with
    | valid a =>
      constructor
      · intro h
        cases h
        exact ⟨g, a, rfl, rfl, rfl⟩
      · rintro ⟨_, _, ⟨⟩, ⟨⟩, rfl⟩
        rfl
    | invalid violations =>
      constructor
      · intro h
        cases h
      · rintro ⟨_, _, -, ⟨⟩, -⟩
  | invalid violations =>
    constructor
    · intro h
      cases x <;> cases h
    · rintro ⟨_, _, ⟨⟩, -⟩

theorem andThen_eq_valid {x : Checked α} {next : α → Checked β} {b : β} :
    x.andThen next = .valid b ↔ ∃ a, x = .valid a ∧ next a = .valid b := by
  cases x with
  | valid a =>
    constructor
    · intro h
      exact ⟨a, rfl, h⟩
    · rintro ⟨_, ⟨⟩, h⟩
      exact h
  | invalid violations =>
    constructor
    · intro h
      cases h
    · rintro ⟨_, ⟨⟩, -⟩

theorem within_eq_valid {step : Step} {x : Checked α} {a : α} :
    x.within step = .valid a ↔ x = .valid a := by
  cases x with
  | valid _ => rfl
  | invalid violations =>
    constructor
    · intro h
      cases h
    · intro h
      cases h

@[simp] theorem seq_valid (g : α → β) (a : α) :
    (Checked.valid g <*> Checked.valid a) = Checked.valid (g a) := rfl

@[simp] theorem map_valid (f : α → β) (a : α) :
    (f <$> Checked.valid a) = Checked.valid (f a) := rfl

/-- Whether the value is accepted. -/
def isValid : Checked α → Bool
  | .valid _ => true
  | .invalid _ => false

theorem exists_of_isValid {x : Checked α} (h : x.isValid = true) : ∃ a, x = .valid a := by
  cases x with
  | valid a => exact ⟨a, rfl⟩
  | invalid _ => cases h

end Checked

namespace Json

/-- The value of a field, under either of its names. -/
def field? (name : FieldName) : Json → Option Json
  | .obj fields => (name.find? fields).map (·.2)
  | _ => none

theorem field?_obj (fields : Fields) (name : FieldName) :
    (obj fields).field? name = (name.find? fields).map (·.2) := rfl

/-- The items of a list, and none of anything else. -/
def items : Json → List Json
  | .arr values => values
  | _ => []

/-- The items of the list that a field holds. -/
def listed (name : FieldName) (json : Json) : List Json := (json.field? name).toList.flatMap items

end Json

namespace Schema

variable {α : Type}

theorem required_eq_valid {fields : Json.Fields} {name : FieldName} {check : Json → Checked α}
    {a : α} :
    required fields name check = .valid a ↔
      ∃ value, (Json.obj fields).field? name = some value ∧ check value = .valid a := by
  rw [required, Json.field?_obj]
  cases name.find? fields with
  | none => simp
  | some found => simp [Checked.within_eq_valid]

theorem defaulted_eq_valid {fields : Json.Fields} {name : FieldName} {default : α}
    {check : Json → Checked α} {a : α} :
    defaulted fields name default check = .valid a ↔
      (Json.obj fields).field? name = none ∧ default = a ∨
        ∃ value, (Json.obj fields).field? name = some value ∧ check value = .valid a := by
  rw [defaulted, Json.field?_obj]
  cases name.find? fields with
  | none => simp
  | some found => simp [Checked.within_eq_valid]

theorem object_eq_valid {model : String} {check : Json.Fields → Checked α} {json : Json} {a : α} :
    object model check json = .valid a ↔
      ∃ fields, json = .obj fields ∧ check fields = .valid a := by
  cases json <;> simp [object, Checked.broken]

/-- Every item of an accepted list comes from an item that was accepted. -/
theorem exists_of_mem_items {check : Json → Checked α} {values : List Json} {position : Nat}
    {as : List α} (h : items check position values = .valid as) {a : α} (member : a ∈ as) :
    ∃ value ∈ values, check value = .valid a := by
  induction values generalizing position as with
  | nil =>
    cases h
    cases member
  | cons value rest ih =>
    simp only [items, Checked.seq_eq_valid, Checked.map_eq_valid, Checked.within_eq_valid] at h
    obtain ⟨_, others, ⟨first, accepted, rfl⟩, behind, rfl⟩ := h
    obtain rfl | member := List.mem_cons.mp member
    · exact ⟨value, List.mem_cons_self, accepted⟩
    · obtain ⟨found, inside, accepted⟩ := ih behind member
      exact ⟨found, List.mem_cons_of_mem _ inside, accepted⟩

theorem exists_of_mem_list {check : Json → Checked α} {json : Json} {as : List α}
    (h : list check json = .valid as) {a : α} (member : a ∈ as) :
    ∃ value ∈ json.items, check value = .valid a := by
  cases json with
  | arr values => exact exists_of_mem_items h member
  | null => cases h
  | bool b => cases h
  | num n => cases h
  | str text => cases h
  | obj fields => cases h

/-- Every item of an accepted list that may be left out comes from an item that was accepted. -/
theorem exists_of_mem_listed {fields : Json.Fields} {name : FieldName} {check : Json → Checked α}
    {as : List α} (h : defaulted fields name [] (list check) = .valid as) {a : α}
    (member : a ∈ as) : ∃ value ∈ (Json.obj fields).listed name, check value = .valid a := by
  obtain ⟨-, rfl⟩ | ⟨value, given, accepted⟩ := defaulted_eq_valid.mp h
  · cases member
  · rw [Json.listed, given, Option.toList_some, List.flatMap_singleton]
    exact exists_of_mem_list accepted member

end Schema

/-! ## Written values -/

namespace Schema

variable {α β : Type}

/-- A list whose items are written so that they are accepted is accepted. -/
theorem exists_list_of_forall {check : Json → Checked β} {write : α → Json} {R : α → β → Prop}
    {as : List α} (each : ∀ a ∈ as, ∃ b, check (write a) = .valid b ∧ R a b) :
    ∃ bs, list check (.arr (as.map write)) = .valid bs ∧ List.Forall₂ R as bs := by
  have row (position : Nat) :
      ∃ bs, items check position (as.map write) = .valid bs ∧ List.Forall₂ R as bs := by
    induction as generalizing position with
    | nil => exact ⟨[], rfl, .nil⟩
    | cons a rest ih =>
      rw [List.forall_mem_cons] at each
      obtain ⟨b, accepted, related⟩ := each.1
      obtain ⟨bs, behind, others⟩ := ih each.2 (position + 1)
      refine ⟨b :: bs, ?_, .cons related others⟩
      simp only [List.map_cons, items, accepted, behind, Checked.within, Checked.map_valid,
        Checked.seq_valid]
  exact row 0

/-- A list whose items are written so that they are read back is read back. -/
theorem list_of_forall {check : Json → Checked α} {write : α → Json} {as : List α}
    (each : ∀ a ∈ as, check (write a) = .valid a) :
    list check (.arr (as.map write)) = .valid as := by
  obtain ⟨bs, accepted, same⟩ : ∃ bs, list check (.arr (as.map write)) = .valid bs ∧
      List.Forall₂ Eq as bs :=
    exists_list_of_forall fun a member => ⟨a, each a member, rfl⟩
  rw [List.forall₂_eq_eq_eq] at same
  rw [accepted, same]

theorem nullable_of_ne_null {check : Json → Checked α} {json : Json} (some : json ≠ .null) :
    nullable check json = (check json).map Option.some := by
  cases json with
  | null => exact absurd rfl some
  | _ => rfl

/-- What may be left out is read back, as null stands for nothing else. -/
theorem nullable_of_forall {check : Json → Checked α} {write : α → Json} {a? : Option α}
    (each : ∀ a ∈ a?, write a ≠ .null ∧ check (write a) = .valid a) :
    nullable check ((a?.map write).getD .null) = .valid a? := by
  cases a? with
  | none => rfl
  | some a =>
    obtain ⟨some, accepted⟩ := each a rfl
    rw [Option.map_some, Option.getD_some, nullable_of_ne_null some, accepted]
    rfl

end Schema

/-- No name of one field is a name of the other. -/
def FieldName.Apart (a b : FieldName) : Prop :=
  a.wire ≠ b.wire ∧ a.plain ≠ b.plain ∧ a.wire ≠ b.plain ∧ a.plain ≠ b.wire

instance : DecidableRel FieldName.Apart :=
  fun a b => inferInstanceAs (Decidable (a.wire ≠ b.wire ∧ a.plain ≠ b.plain ∧ _))

theorem FieldName.Apart.symm {a b : FieldName} (h : a.Apart b) : b.Apart a :=
  ⟨h.1.symm, h.2.1.symm, h.2.2.2.symm, h.2.2.1.symm⟩

namespace Json

/-- Fields under their names in a style. -/
def written (style : NameStyle) (entries : List (FieldName × Json)) : Fields :=
  entries.map fun entry => (.unicode (entry.1.inStyle style), entry.2)

/-- The first field counts only if its name does not come again. -/
theorem lookup_cons (key : JsonString) (value : Json) (rest : Fields) (name : String) :
    lookup ((key, value) :: rest) name =
      (lookup rest name).or (if key == .unicode name then some value else none) := by
  let step (found : Option Json) (field : JsonString × Json) : Option Json :=
    if field.1 == .unicode name then some field.2 else found
  have behind (found : Option Json) : rest.foldl step found = (rest.foldl step none).or found := by
    induction rest generalizing found with
    | nil => rfl
    | cons field rest ih =>
      rw [List.foldl_cons, List.foldl_cons, ih, ih (step none field), Option.or_assoc]
      congr 1
      simp only [step]
      split <;> rfl
  exact behind _

theorem lookup_written_eq_none {style : NameStyle} {entries : List (FieldName × Json)}
    {name : String} (other : ∀ entry ∈ entries, entry.1.inStyle style ≠ name) :
    lookup (written style entries) name = none := by
  induction entries with
  | nil => rfl
  | cons entry rest ih =>
    rw [List.forall_mem_cons] at other
    have differs : ¬ (JsonString.unicode (entry.1.inStyle style) == .unicode name) = true := by
      simpa using other.1
    rw [written, List.map_cons, lookup_cons, if_neg differs, ← written, ih other.2]
    rfl

/-- A field is found under the name it is written with. -/
theorem lookup_written {style : NameStyle} {entries : List (FieldName × Json)} {name : FieldName}
    {value : Json} (apart : (entries.map Prod.fst).Pairwise FieldName.Apart)
    (member : (name, value) ∈ entries) :
    lookup (written style entries) (name.inStyle style) = some value := by
  induction entries with
  | nil => cases member
  | cons entry rest ih =>
    rw [List.map_cons, List.pairwise_cons] at apart
    rw [written, List.map_cons, lookup_cons, ← written]
    obtain rfl | member := List.mem_cons.mp member
    · have others : ∀ entry ∈ rest, entry.1.inStyle style ≠ name.inStyle style := by
        intro entry inside same
        have differs := apart.1 entry.1 (List.mem_map_of_mem inside)
        cases style with
        | wire => exact differs.1 same.symm
        | plain => exact differs.2.1 same.symm
      rw [lookup_written_eq_none others, if_pos (by simp)]
      rfl
    · rw [ih apart.2 member]
      rfl

/-- A field that is written is the field of its name. -/
theorem find?_written {style : NameStyle} {entries : List (FieldName × Json)} {name : FieldName}
    {value : Json} (apart : (entries.map Prod.fst).Pairwise FieldName.Apart)
    (member : (name, value) ∈ entries) :
    name.find? (written style entries) = some (name.inStyle style, value) := by
  have found : lookup (written style entries) (name.inStyle style) = some value :=
    lookup_written apart member
  rw [FieldName.find?]
  cases style with
  | wire =>
    rw [show lookup (written .wire entries) name.wire = some value from found]
    rfl
  | plain =>
    -- the wire name comes first, and is looked up in vain unless it is the only one
    by_cases one : name.wire = name.plain
    · rw [one, show lookup (written .plain entries) name.plain = some value from found]
      simp only [FieldName.inStyle]
    · have others : ∀ entry ∈ entries, entry.1.plain ≠ name.wire := by
        intro entry inside same
        obtain equal | differs := eq_or_ne entry.1 name
        · exact one (same.symm.trans (congrArg FieldName.plain equal))
        · have symmetric : Std.Symm FieldName.Apart := ⟨fun _ _ h => h.symm⟩
          exact (apart.forall (List.mem_map_of_mem inside) (List.mem_map_of_mem member)
            differs).2.2.2 same
      have unfound : lookup (written .plain entries) name.wire = none :=
        lookup_written_eq_none others
      rw [unfound, show lookup (written .plain entries) name.plain = some value from found]
      rfl

end Json

namespace Schema

variable {α : Type} {style : NameStyle} {entries : List (FieldName × Json)} {name : FieldName}
  {value : Json} {check : Json → Checked α} {a : α}

/-- A field that must be there is read back if its value is. -/
theorem required_written (apart : (entries.map Prod.fst).Pairwise FieldName.Apart)
    (member : (name, value) ∈ entries) (accepted : check value = .valid a) :
    required (Json.written style entries) name check = .valid a := by
  simp only [required, Json.find?_written apart member, accepted, Checked.within]

/-- A field that has a default is read back if its value is, as every field is written. -/
theorem defaulted_written {default : α} (apart : (entries.map Prod.fst).Pairwise FieldName.Apart)
    (member : (name, value) ∈ entries) (accepted : check value = .valid a) :
    defaulted (Json.written style entries) name default check = .valid a := by
  simp only [defaulted, Json.find?_written apart member, accepted, Checked.within]

end Schema

end SwapCompiler
