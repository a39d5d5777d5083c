import SwapCompiler.Header
import SwapCompiler.Proofs.Bytes.Words
import SwapCompiler.Proofs.Outcome
import Mathlib.Algebra.Group.Int.Defs
import Mathlib.Algebra.GroupWithZero.Nat

/-!
# When a header can be written

A header can be written exactly when every value fits its field and every field has a
width between one and 32 bytes. Where the widths are in order, nothing else than a value
that does not fit can go wrong. What was written is read back by the widths alone
(`Header.unpack?_of_pack`), so that a header is an exact code of its values
(`Header.pack_exact`).
-/

namespace SwapCompiler.Header

theorem fit_eq_ok {value width : Int} {field : String} {fitted : Nat} :
    fit value width field = .ok fitted ↔
      (0 ≤ value ∧ 0 ≤ width ∧ value.toNat < Bytes.capacity width.toNat) ∧
        value.toNat = fitted := by
  unfold fit
  by_cases negative : value < 0
  · rw [if_pos negative]
    constructor
    · rintro ⟨⟩
    · rintro ⟨⟨positive, -⟩, -⟩
      omega
  · rw [if_neg negative]
    by_cases narrow : width < 0
    · rw [if_pos narrow]
      constructor
      · rintro ⟨⟩
      · rintro ⟨⟨-, wide, -⟩, -⟩
        omega
    · rw [if_neg narrow, ← Bytes.fits_iff]
      by_cases fits : Bytes.fits width.toNat value.toNat = true
      · rw [if_pos fits, Except.ok.injEq]
        exact ⟨fun h => ⟨⟨by omega, by omega, fits⟩, h⟩, fun h => h.2⟩
      · rw [if_neg fits]
        constructor
        · rintro ⟨⟩
        · rintro ⟨⟨-, -, h⟩, -⟩
          exact absurd h fits

theorem fit_onlyOverflows {width : Int} (wide : 0 ≤ width) (value : Int) (field : String) :
    OnlyOverflows (fit value width field) := by
  unfold fit
  by_cases negative : value < 0
  · rw [if_pos negative]
    exact .overflow field value width
  · rw [if_neg negative, if_neg (by omega)]
    by_cases fits : Bytes.fits width.toNat value.toNat = true
    · rw [if_pos fits]
      exact .ok _
    · rw [if_neg fits]
      exact .overflow field value width

/-- The value fits the field. -/
def Field.Fits (field : Field) : Prop :=
  0 ≤ field.value ∧ 0 ≤ field.width ∧ field.value.toNat < Bytes.capacity field.width.toNat

/-- The field has a width that can be written. -/
def Field.Regular (field : Field) : Prop :=
  0 < field.width ∧ field.width ≤ 32

theorem checkValues_eq_ok {fields : List Field} :
    checkValues fields = .ok () ↔ ∀ field ∈ fields, field.Fits := by
  induction fields with
  | nil => simp [checkValues]
  | cons field rest ih =>
    rw [checkValues, List.forall_mem_cons, ← ih]
    cases fitted : fit field.value field.width field.name with
    | ok n => exact ⟨fun h => ⟨(fit_eq_ok.mp fitted).1, h⟩, fun h => h.2⟩
    | error fault =>
      constructor
      · rintro ⟨⟩
      · rintro ⟨fits, -⟩
        rw [fit_eq_ok.mpr ⟨fits, rfl⟩] at fitted
        cases fitted

theorem checkWidth_eq_ok {field : Field} : checkWidth field.width = .ok () ↔ field.Regular := by
  unfold checkWidth Field.Regular
  by_cases empty : field.width ≤ 0
  · rw [if_pos empty]
    constructor
    · rintro ⟨⟩
    · omega
  · rw [if_neg empty]
    by_cases wide : 32 < field.width
    · rw [if_pos wide]
      constructor
      · rintro ⟨⟩
      · omega
    · rw [if_neg wide]
      exact ⟨fun _ => ⟨by omega, by omega⟩, fun _ => rfl⟩

theorem checkWidths_eq_ok {fields : List Field} :
    checkWidths fields = .ok () ↔ ∀ field ∈ fields, field.Regular := by
  induction fields with
  | nil => simp [checkWidths]
  | cons field rest ih =>
    rw [checkWidths, List.forall_mem_cons, ← ih, ← checkWidth_eq_ok]
    cases checkWidth field.width with
    | ok width => exact ⟨fun h => ⟨rfl, h⟩, fun h => h.2⟩
    | error fault =>
      constructor
      · rintro ⟨⟩
      · rintro ⟨⟨⟩, -⟩

/-- A header is written exactly when all values fit and all widths can be written. -/
theorem pack_eq_ok {fields : List Field} {payload bytes : Bytes} :
    pack fields payload = .ok bytes ↔
      ((∀ field ∈ fields, field.Fits) ∧ ∀ field ∈ fields, field.Regular) ∧
        encode fields ++ payload = bytes := by
  simp only [pack, Outcome.bind_eq_ok, ← checkValues_eq_ok, ← checkWidths_eq_ok,
    Outcome.pure_eq_ok]
  constructor
  · rintro ⟨_, values, _, widths, written⟩
    exact ⟨⟨values, widths⟩, written⟩
  · rintro ⟨⟨values, widths⟩, written⟩
    exact ⟨(), values, (), widths, written⟩

/-- In a field whose width is in order, only the value can be wrong, and it is refused with the
name of the field. -/
theorem fit_eq_error {field : Field} {fault : Fault} (regular : field.Regular)
    (failed : fit field.value field.width field.name = .error fault) :
    ¬ field.Fits ∧ fault = Refusal.headerOverflow field.name field.value field.width := by
  constructor
  · intro fits
    rw [fit_eq_ok.mpr ⟨fits, rfl⟩] at failed
    cases failed
  · unfold fit at failed
    by_cases negative : field.value < 0
    · rw [if_pos negative] at failed
      cases failed
      rfl
    · rw [if_neg negative, if_neg (Int.not_lt.mpr (Int.le_of_lt regular.1))] at failed
      split at failed
      · cases failed
      · cases failed
        rfl

/-- The fault refuses the first value that does not fit, with the name of its field. -/
def RefusesFirst (fields : List Field) (fault : Fault) : Prop :=
  ∃ before field after, fields = before ++ field :: after ∧ (∀ f ∈ before, f.Fits) ∧
    ¬ field.Fits ∧ fault = Refusal.headerOverflow field.name field.value field.width

theorem refusesFirst_of_checkValues {fields : List Field} {fault : Fault}
    (regular : ∀ field ∈ fields, field.Regular) (failed : checkValues fields = .error fault) :
    RefusesFirst fields fault := by
  induction fields with
  | nil => cases failed
  | cons first rest ih =>
    rw [List.forall_mem_cons] at regular
    rw [checkValues] at failed
    cases fitted : fit first.value first.width first.name with
    | error first' =>
      rw [fitted] at failed
      cases failed
      exact ⟨[], first, rest, rfl, by simp, fit_eq_error regular.1 fitted⟩
    | ok n =>
      rw [fitted] at failed
      obtain ⟨before, field, after, rfl, fits, refused⟩ := ih regular.2 failed
      refine ⟨first :: before, field, after, rfl, ?_, refused⟩
      exact List.forall_mem_cons.mpr ⟨(fit_eq_ok.mp fitted).1, fits⟩

/-- Where the widths are in order, the first value that does not fit is refused. -/
theorem refusesFirst_of_pack {fields : List Field} {payload : Bytes} {fault : Fault}
    (regular : ∀ field ∈ fields, field.Regular) (failed : pack fields payload = .error fault) :
    RefusesFirst fields fault := by
  rw [pack, checkWidths_eq_ok.mpr regular, Outcome.ok_bind, Outcome.bind_eq_error] at failed
  obtain failed | ⟨-, -, written⟩ := failed
  · exact refusesFirst_of_checkValues regular failed
  · cases written

/-- Where the widths are in order, only a value that does not fit can go wrong. -/
theorem pack_onlyOverflows {fields : List Field} (regular : ∀ field ∈ fields, field.Regular)
    (payload : Bytes) : OnlyOverflows (pack fields payload) := by
  intro fault failed
  obtain ⟨-, field, -, -, -, -, overflow⟩ := refusesFirst_of_pack regular failed
  exact ⟨field.name, field.value, field.width, overflow⟩

/-- Where the widths are in order, a header is written if all values fit, and else overflows. -/
theorem pack_follows {fields : List Field} (regular : ∀ field ∈ fields, field.Regular)
    (payload : Bytes) :
    Follows True (pack fields payload) (∀ field ∈ fields, field.Fits)
      (encode fields ++ payload) where
  sound _ h := (pack_eq_ok.mp h).imp_left fun fits => fits.1
  complete _ fits := pack_eq_ok.mpr ⟨⟨fits, regular⟩, rfl⟩
  overflows _ := pack_onlyOverflows regular payload

/-- A number fits a field of its width if it is below the capacity. -/
theorem fits_natCast {name : String} {value width : Nat} :
    Field.Fits ⟨name, value, width⟩ ↔ value < Bytes.capacity width := by
  simp [Field.Fits]

/-! ## Reading a header back -/

/-- Values that fit are read back by the widths of their fields. -/
theorem unpack?_encode {fields : List Field} (fits : ∀ field ∈ fields, field.Fits)
    (rest : Bytes) :
    unpack? (fields.map (·.width.toNat)) (encode fields ++ rest) =
      some (fields.map (·.value.toNat), rest) := by
  induction fields with
  | nil => rfl
  | cons field fields ih =>
    rw [List.forall_mem_cons] at fits
    rw [encode, List.flatMap_cons, List.append_assoc, List.map_cons,
      unpack?_word fits.1.2.2, ← encode, ih fits.2]
    rfl

theorem unpack?_of_pack {fields : List Field} {payload bytes : Bytes}
    (packed : pack fields payload = .ok bytes) :
    unpack? (fields.map (·.width.toNat)) bytes = some (fields.map (·.value.toNat), payload) := by
  obtain ⟨⟨fits, -⟩, rfl⟩ := pack_eq_ok.mp packed
  exact unpack?_encode fits payload

/-! ## Exactness -/

variable {fields : List Field} {payload : Bytes} {fault : Fault}

theorem length_encode (fields : List Field) :
    (encode fields).length = (fields.map (·.width.toNat)).sum := by
  simp only [encode, List.length_flatMap, Bytes.length_ofNat]

/-- The value is one of the numbers that as many bytes as the width can write. -/
def Field.InRange (field : Field) : Prop :=
  0 ≤ field.value ∧ field.value < 256 ^ field.width.toNat

instance : DecidablePred Field.InRange := fun _ => inferInstanceAs (Decidable (_ ∧ _))

/-- In a field whose width is in order, exactly the numbers in range fit. -/
theorem Field.Regular.fits_iff {field : Field} (regular : field.Regular) :
    field.Fits ↔ field.InRange := by
  have capacity : (256 : Int) ^ field.width.toNat = (Bytes.capacity field.width.toNat : Nat) :=
    (Int.natCast_pow 256 field.width.toNat).symm
  obtain ⟨positive, -⟩ := regular
  rw [Field.Fits, Field.InRange, capacity]
  constructor
  · rintro ⟨value, -, small⟩
    exact ⟨value, by omega⟩
  · rintro ⟨value, small⟩
    exact ⟨value, by omega, by omega⟩

/-- The first value that does not fit ends the check. -/
theorem checkValues_of_refusesFirst (regular : ∀ field ∈ fields, field.Regular)
    (refuses : RefusesFirst fields fault) : checkValues fields = .error fault := by
  obtain ⟨before, field, after, rfl, fit, unfit, rfl⟩ := refuses
  induction before with
  | nil =>
    rw [List.nil_append, checkValues]
    cases fitted : Header.fit field.value field.width field.name with
    | ok n => exact absurd (fit_eq_ok.mp fitted).1 unfit
    | error fault => rw [(fit_eq_error (regular field (by simp)) fitted).2]
  | cons first before ih =>
    rw [List.forall_mem_cons] at fit
    rw [List.cons_append, List.forall_mem_cons] at regular
    rw [List.cons_append, checkValues, fit_eq_ok.mpr ⟨fit.1, rfl⟩]
    exact ih regular.2 fit.2

/-- Where the widths are in order, the first value out of its range is refused, and no other. -/
theorem pack_eq_error_iff (regular : ∀ field ∈ fields, field.Regular) (payload : Bytes) :
    pack fields payload = .error fault ↔
      ∃ before field after, fields = before ++ field :: after ∧
        (∀ earlier ∈ before, earlier.InRange) ∧ ¬ field.InRange ∧
        fault = Refusal.headerOverflow field.name field.value field.width := by
  have refused : pack fields payload = .error fault ↔ RefusesFirst fields fault := by
    constructor
    · exact refusesFirst_of_pack regular
    · intro refuses
      rw [pack, checkValues_of_refusesFirst regular refuses, Outcome.error_bind]
  rw [refused, RefusesFirst]
  refine exists_congr fun before => exists_congr fun field => exists_congr fun after => ?_
  refine and_congr_right fun split => ?_
  rw [split, List.forall_mem_append, List.forall_mem_cons] at regular
  rw [regular.2.1.fits_iff,
    forall₂_congr fun earlier member => (regular.1 earlier member).fits_iff]

/-- What was packed is read back as the given values. -/
theorem exists_values_of_pack {bytes : Bytes} (packed : pack fields payload = .ok bytes) :
    ∃ values : List Nat, values.map Int.ofNat = fields.map (·.value) ∧
      unpack? (fields.map (·.width.toNat)) bytes = some (values, payload) := by
  refine ⟨_, ?_, unpack?_of_pack packed⟩
  rw [List.map_map]
  refine List.map_congr_left fun field member => ?_
  exact Int.toNat_of_nonneg ((pack_eq_ok.mp packed).1.1 field member).1

end SwapCompiler.Header

namespace SwapCompiler.Sample

/-- Fields of three widths, two of them with the largest number that fits. -/
def mixedFields : List Header.Field :=
  [⟨"first", 0, 1⟩, ⟨"second", 2 ^ 32 - 1, 4⟩, ⟨"third", 2 ^ 256 - 1, 32⟩]

/-- Two of three values do not fit. -/
def unfitFields : List Header.Field :=
  [⟨"first", 255, 1⟩, ⟨"second", -1, 8⟩, ⟨"third", 256, 1⟩]

end SwapCompiler.Sample

namespace SwapCompiler.Header

/-- Where all widths lie between one and 32 bytes, a header is written exactly if every value is in
the range of its field. It then has as many bytes as the widths say in front of the payload, and is
read back by these widths alone, so that no other values and no other payload are written alike.
Otherwise the first value out of its range is refused by name. -/
theorem pack_exact {fields : List Field}
    (regular : ∀ field ∈ fields, 1 ≤ field.width ∧ field.width ≤ 32) (payload : Bytes) :
    ((∃ bytes, pack fields payload = .ok bytes) ↔ ∀ field ∈ fields, field.InRange) ∧
    (∀ bytes, pack fields payload = .ok bytes →
      bytes.length = (fields.map (·.width.toNat)).sum + payload.length ∧
      (∃ values : List Nat, values.map Int.ofNat = fields.map (·.value) ∧
        unpack? (fields.map (·.width.toNat)) bytes = some (values, payload)) ∧
      ∀ others rest, others.map (·.width) = fields.map (·.width) →
        pack others rest = .ok bytes →
        others.map (·.value) = fields.map (·.value) ∧ rest = payload) ∧
    ∀ fault, pack fields payload = .error fault ↔
      ∃ before field after, fields = before ++ field :: after ∧
        (∀ earlier ∈ before, earlier.InRange) ∧ ¬ field.InRange ∧
        fault = Refusal.headerOverflow field.name field.value field.width := by
  have regular : ∀ field ∈ fields, field.Regular := regular
  refine ⟨?_, fun bytes packed => ⟨?_, exists_values_of_pack packed, ?_⟩,
    fun fault => pack_eq_error_iff regular payload⟩
  · have inRange : (∀ field ∈ fields, field.Fits) ↔ ∀ field ∈ fields, field.InRange :=
      forall₂_congr fun field member => (regular field member).fits_iff
    rw [← inRange]
    constructor
    · rintro ⟨bytes, packed⟩
      exact (pack_eq_ok.mp packed).1.1
    · intro fits
      exact ⟨_, pack_eq_ok.mpr ⟨⟨fits, regular⟩, rfl⟩⟩
  · obtain ⟨-, rfl⟩ := pack_eq_ok.mp packed
    rw [List.length_append, length_encode]
  · intro others rest widths packed'
    obtain ⟨values, given, read⟩ := exists_values_of_pack packed
    obtain ⟨values', given', read'⟩ := exists_values_of_pack packed'
    -- both are read from the same bytes by the same widths
    have same : others.map (·.width.toNat) = fields.map (·.width.toNat) := by
      have shorten := congrArg (List.map Int.toNat) widths
      rwa [List.map_map, List.map_map] at shorten
    rw [same, read, Option.some.injEq, Prod.mk.injEq] at read'
    obtain ⟨rfl, rfl⟩ := read'
    exact ⟨given'.symm.trans given, rfl⟩

theorem pack_exact_of_mixed_widths :
    (∀ field ∈ Sample.mixedFields, 1 ≤ field.width ∧ field.width ≤ 32) ∧
      (∃ bytes values, pack Sample.mixedFields [0xff] = .ok bytes ∧ bytes.length = 38 ∧
        unpack? [1, 4, 32] bytes = some (values, [0xff]) ∧
        values.map Int.ofNat = [0, 2 ^ 32 - 1, 2 ^ 256 - 1]) ∧
      (∀ field ∈ Sample.unfitFields, 1 ≤ field.width ∧ field.width ≤ 32) ∧
      pack Sample.unfitFields [0xff] = .error (Refusal.headerOverflow "second" (-1) 8) := by
  have regular : ∀ field ∈ Sample.mixedFields, 1 ≤ field.width ∧ field.width ≤ 32 := by
    decide
  have regular' : ∀ field ∈ Sample.unfitFields, 1 ≤ field.width ∧ field.width ≤ 32 := by
    decide
  obtain ⟨written, code, -⟩ := pack_exact regular [0xff]
  obtain ⟨bytes, packed⟩ := written.mpr (by decide +kernel)
  obtain ⟨length, ⟨values, given, read⟩, -⟩ := code bytes packed
  obtain ⟨-, -, refused⟩ := pack_exact regular' [0xff]
  refine ⟨regular, ⟨bytes, values, packed, length, read, given⟩, regular', ?_⟩
  exact (refused _).mpr ⟨[⟨"first", 255, 1⟩], ⟨"second", -1, 8⟩, [⟨"third", 256, 1⟩], rfl,
    by decide, by decide, rfl⟩

end SwapCompiler.Header
