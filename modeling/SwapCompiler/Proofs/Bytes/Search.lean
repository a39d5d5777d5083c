import SwapCompiler.Bytes.Search
import Mathlib.Data.List.Infix
import Mathlib.Order.Lattice.Nat

/-!
# What the search for a pattern finds

`firstIndex?` gives the least offset at which the pattern occurs, and fails only where it
occurs nowhere. A pattern that occurs in a part occurs in the whole, and one that occurs
across the end of a part is split there. Where a pattern is first is the same whether what
stands at an offset is compared (`OccursAt`) or the part of the data that begins there is
(`isFirst_iff_extract`).
-/

namespace SwapCompiler.Bytes

instance (pattern data : Bytes) (index : Nat) : Decidable (OccursAt pattern data index) :=
  inferInstanceAs (Decidable (_ ∧ _))

theorem occursAt_zero {pattern data : Bytes} : OccursAt pattern data 0 ↔ pattern <+: data := by
  constructor
  · rintro ⟨-, front⟩
    rw [List.drop_zero] at front
    exact front ▸ List.take_prefix _ _
  · intro front
    exact ⟨by simpa using front.length_le, by simpa using (List.prefix_iff_eq_take.mp front).symm⟩

theorem occursAt_succ {pattern rest : Bytes} {byte : UInt8} {index : Nat} :
    OccursAt pattern (byte :: rest) (index + 1) ↔ OccursAt pattern rest index := by
  simp only [OccursAt, List.length_cons, List.drop_succ_cons]
  constructor
  · rintro ⟨bound, found⟩
    exact ⟨by omega, found⟩
  · rintro ⟨bound, found⟩
    exact ⟨by omega, found⟩

/-- An occurrence splits the data. -/
theorem occursAt_iff {pattern data : Bytes} {index : Nat} :
    OccursAt pattern data index ↔
      ∃ front back, data = front ++ pattern ++ back ∧ front.length = index := by
  constructor
  · rintro ⟨bound, found⟩
    refine ⟨data.take index, (data.drop index).drop pattern.length, ?_, ?_⟩
    · conv_lhs => rw [← List.take_append_drop index data,
        ← List.take_append_drop pattern.length (data.drop index), found]
      rw [List.append_assoc]
    · rw [List.length_take]
      omega
  · rintro ⟨front, back, rfl, rfl⟩
    refine ⟨by simp only [List.length_append]; omega, ?_⟩
    rw [List.append_assoc, List.drop_left, List.take_left]

/-- An occurrence is a beginning of what stands from its offset on. -/
theorem occursAt_iff_front {pattern data : Bytes} {index : Nat} :
    OccursAt pattern data index ↔ index ≤ data.length ∧ pattern <+: data.drop index := by
  rw [OccursAt, List.prefix_iff_eq_take]
  constructor
  · rintro ⟨bound, found⟩
    exact ⟨by omega, found.symm⟩
  · rintro ⟨inside, found⟩
    have bound : pattern.length ≤ (data.drop index).length := by
      rw [found]
      exact List.length_take_le' _ _
    rw [List.length_drop] at bound
    exact ⟨by omega, found.symm⟩

/-- Two patterns in a row occur one behind the other. -/
theorem occursAt_append {first second data : Bytes} {index : Nat} :
    OccursAt (first ++ second) data index ↔
      OccursAt first data index ∧ OccursAt second data (index + first.length) := by
  rw [OccursAt, OccursAt, OccursAt, List.length_append, List.take_add, List.drop_drop]
  constructor
  · rintro ⟨bound, found⟩
    have length : ((data.drop index).take first.length).length = first.length := by
      rw [List.length_take, List.length_drop]
      omega
    obtain ⟨front, back⟩ := List.append_inj found length
    exact ⟨⟨by omega, front⟩, by omega, back⟩
  · rintro ⟨⟨-, front⟩, bound, back⟩
    exact ⟨by omega, by rw [front, back]⟩

/-- The pattern stands somewhere in the data. -/
def Occurs (pattern data : Bytes) : Prop := ∃ index, OccursAt pattern data index

/-- The pattern stands in the data at the offset, and nowhere before it. -/
def IsFirst (pattern data : Bytes) (index : Nat) : Prop :=
  OccursAt pattern data index ∧ ∀ earlier < index, ¬ OccursAt pattern data earlier

theorem IsFirst.unique {pattern data : Bytes} {index other : Nat} (h : IsFirst pattern data index)
    (h' : IsFirst pattern data other) : index = other := by
  rcases Nat.lt_trichotomy index other with before | same | behind
  · exact absurd h.1 (h'.2 index before)
  · exact same
  · exact absurd h'.1 (h.2 other behind)

/-- The least offset at which the pattern stands. -/
noncomputable def firstOffset (pattern data : Bytes) : Nat := sInf {index | OccursAt pattern data index}

theorem Occurs.isFirst {pattern data : Bytes} (h : Occurs pattern data) :
    IsFirst pattern data (firstOffset pattern data) :=
  ⟨Nat.sInf_mem h, fun _ before => Nat.notMem_of_lt_sInf before⟩

theorem IsFirst.firstOffset_eq {pattern data : Bytes} {index : Nat} (h : IsFirst pattern data index) :
    firstOffset pattern data = index :=
  (Occurs.isFirst ⟨index, h.1⟩).unique h

/-! ## The search -/

theorem firstIndexFrom?_eq_some {pattern data : Bytes} {offset index : Nat} :
    firstIndexFrom? pattern offset data = some index ↔
      ∃ distance, index = offset + distance ∧ OccursAt pattern data distance ∧
        ∀ earlier < distance, ¬ OccursAt pattern data earlier := by
  induction data generalizing offset with
  | nil =>
    cases pattern with
    | nil =>
      simp only [firstIndexFrom?, List.isEmpty_nil, if_true, Option.some.injEq]
      constructor
      · rintro rfl
        exact ⟨0, rfl, ⟨Nat.le_refl _, rfl⟩, fun _ h => absurd h (Nat.not_lt_zero _)⟩
      · rintro ⟨distance, rfl, occurs, -⟩
        have zero : distance = 0 := by simpa using occurs.1
        rw [zero, Nat.add_zero]
    | cons byte rest =>
      simp only [firstIndexFrom?, List.isEmpty_cons, Bool.false_eq_true, if_false]
      constructor
      · rintro ⟨⟩
      · rintro ⟨distance, -, occurs, -⟩
        have bound := occurs.1
        simp at bound
  | cons byte rest ih =>
    rw [firstIndexFrom?]
    by_cases front : pattern <+: byte :: rest
    · rw [if_pos (List.isPrefixOf_iff_prefix.mpr front), Option.some.injEq]
      constructor
      · rintro rfl
        exact ⟨0, rfl, occursAt_zero.mpr front, fun _ h => absurd h (Nat.not_lt_zero _)⟩
      · rintro ⟨distance, rfl, -, least⟩
        cases distance with
        | zero => rfl
        | succ distance => exact absurd (occursAt_zero.mpr front) (least 0 (Nat.succ_pos _))
    · rw [if_neg (fun h => front (List.isPrefixOf_iff_prefix.mp h)), ih]
      constructor
      · rintro ⟨distance, rfl, occurs, least⟩
        refine ⟨distance + 1, by omega, occursAt_succ.mpr occurs, ?_⟩
        intro earlier before
        cases earlier with
        | zero => exact fun h => front (occursAt_zero.mp h)
        | succ earlier => exact fun h => least earlier (by omega) (occursAt_succ.mp h)
      · rintro ⟨distance, rfl, occurs, least⟩
        cases distance with
        | zero => exact absurd (occursAt_zero.mp occurs) front
        | succ distance =>
          refine ⟨distance, by omega, occursAt_succ.mp occurs, ?_⟩
          intro earlier before h
          exact least (earlier + 1) (by omega) (occursAt_succ.mpr h)

/-- The search finds the least occurrence. -/
theorem firstIndex?_eq_some {pattern data : Bytes} {index : Nat} :
    firstIndex? pattern data = some index ↔ IsFirst pattern data index := by
  rw [firstIndex?, firstIndexFrom?_eq_some]
  constructor
  · rintro ⟨distance, rfl, found⟩
    rwa [Nat.zero_add]
  · intro found
    exact ⟨index, (Nat.zero_add _).symm, found⟩

instance (pattern data : Bytes) (index : Nat) : Decidable (IsFirst pattern data index) :=
  decidable_of_iff (firstIndex? pattern data = some index) firstIndex?_eq_some

theorem occursAt_nil (data : Bytes) : OccursAt [] data 0 :=
  occursAt_zero.mpr List.nil_prefix

theorem firstIndex?_nil (data : Bytes) : firstIndex? [] data = some 0 :=
  firstIndex?_eq_some.mpr ⟨occursAt_nil data, fun _ h => absurd h (Nat.not_lt_zero _)⟩

theorem exists_firstIndex? {pattern data : Bytes} {index : Nat} (h : OccursAt pattern data index) :
    ∃ first, firstIndex? pattern data = some first ∧ first ≤ index := by
  induction index using Nat.strong_induction_on with
  | _ index ih =>
    by_cases least : ∀ earlier < index, ¬ OccursAt pattern data earlier
    · exact ⟨index, firstIndex?_eq_some.mpr ⟨h, least⟩, Nat.le_refl _⟩
    · push Not at least
      obtain ⟨earlier, before, occurs⟩ := least
      obtain ⟨first, found, bound⟩ := ih earlier before occurs
      exact ⟨first, found, by omega⟩

theorem contains_iff {data pattern : Bytes} :
    data.contains pattern = true ↔ Occurs pattern data := by
  rw [contains, Option.isSome_iff_exists]
  constructor
  · rintro ⟨index, found⟩
    exact ⟨index, (firstIndex?_eq_some.mp found).1⟩
  · rintro ⟨index, occurs⟩
    obtain ⟨first, found, -⟩ := exists_firstIndex? occurs
    exact ⟨first, found⟩

/-! ## Parts and wholes -/

theorem contains_iff_isInfix {data pattern : Bytes} :
    data.contains pattern = true ↔ pattern <:+: data := by
  rw [contains_iff]
  constructor
  · rintro ⟨index, occurs⟩
    obtain ⟨front, back, rfl, -⟩ := occursAt_iff.mp occurs
    exact ⟨front, back, rfl⟩
  · rintro ⟨front, back, rfl⟩
    exact ⟨front.length, occursAt_iff.mpr ⟨front, back, rfl, rfl⟩⟩

/-- A pattern that occurs in a part occurs in the whole. -/
theorem contains_of_infix {part whole pattern : Bytes} (inside : part <:+: whole)
    (h : part.contains pattern = true) : whole.contains pattern = true :=
  contains_iff_isInfix.mpr ((contains_iff_isInfix.mp h).trans inside)

theorem Occurs.of_isInfix {part whole pattern : Bytes} (inside : part <:+: whole)
    (h : Occurs pattern part) : Occurs pattern whole := by
  rw [← contains_iff] at h ⊢
  exact contains_of_infix inside h

theorem firstIndex?_eq_none {pattern data : Bytes} :
    firstIndex? pattern data = none ↔ data.contains pattern = false := by
  rw [contains, Option.isSome_eq_false_iff, Option.isNone_iff_eq_none]

theorem firstIndex?_of_absent {pattern data : Bytes} (absent : ¬ Occurs pattern data) :
    firstIndex? pattern data = none := by
  rwa [firstIndex?_eq_none, Bool.eq_false_iff, Ne, contains_iff]

theorem occursAt_append_right {pattern front back : Bytes} {index : Nat} :
    OccursAt pattern (front ++ back) (front.length + index) ↔ OccursAt pattern back index := by
  rw [OccursAt, OccursAt, List.length_append, List.drop_length_add_append]
  constructor
  · exact fun ⟨bound, found⟩ => ⟨by omega, found⟩
  · exact fun ⟨bound, found⟩ => ⟨by omega, found⟩

/-- What ends in the part in front stands there. -/
theorem occursAt_append_left {pattern front back : Bytes} {index : Nat}
    (inside : index + pattern.length ≤ front.length) :
    OccursAt pattern (front ++ back) index ↔ OccursAt pattern front index := by
  rw [OccursAt, OccursAt, List.length_append, List.drop_append_of_le_length (by omega),
    List.take_append_of_le_length (by rw [List.length_drop]; omega)]
  constructor
  · exact fun ⟨_, found⟩ => ⟨inside, found⟩
  · exact fun ⟨_, found⟩ => ⟨by omega, found⟩

/-- What is found in a part that the whole begins with is found there in the whole. -/
theorem IsFirst.of_prefix {pattern part whole : Bytes} {index : Nat} (front : part <+: whole)
    (first : IsFirst pattern part index) : IsFirst pattern whole index := by
  obtain ⟨rest, rfl⟩ := front
  have inside := first.1.1
  refine ⟨(occursAt_append_left inside).mpr first.1, fun earlier before found => ?_⟩
  exact first.2 earlier before ((occursAt_append_left (by omega)).mp found)

/-- Behind other bytes the pattern is found as many bytes later at most, and exactly so many unless
it comes about earlier, across the beginning of the data or in front of it. -/
theorem IsFirst.append_left {pattern data : Bytes} {index : Nat} (front : Bytes)
    (first : IsFirst pattern data index) :
    ∃ shifted ≤ front.length + index, IsFirst pattern (front ++ data) shifted ∧
      (shifted = front.length + index ↔
        ∀ start < front.length, ¬ OccursAt pattern (front ++ data) start) := by
  obtain ⟨shifted, found, most⟩ := exists_firstIndex? (occursAt_append_right.mpr first.1)
  have found := firstIndex?_eq_some.mp found
  refine ⟨shifted, most, found, fun same start before => found.2 start (by omega), fun none => ?_⟩
  have behind : front.length ≤ shifted := by
    by_contra before
    exact none shifted (Nat.lt_of_not_le before) found.1
  -- what begins behind the front stands in the data, and not before its first offset there
  obtain ⟨distance, rfl⟩ := Nat.exists_eq_add_of_le behind
  have least : index ≤ distance := by
    by_contra before
    exact first.2 distance (Nat.lt_of_not_le before) (occursAt_append_right.mp found.1)
  omega

/-- A pattern that stands across the end of a part is an end of this part and a beginning of
what follows. -/
theorem occursAt_across {pattern front back : Bytes} {index : Nat} (begins : index ≤ front.length)
    (ends : front.length ≤ index + pattern.length) :
    OccursAt pattern (front ++ back) index ↔
      ∃ rest, pattern = front.drop index ++ rest ∧ rest <+: back := by
  rw [occursAt_iff_front, List.drop_append_of_le_length begins]
  constructor
  · rintro ⟨-, found⟩
    have inside : front.drop index <+: pattern :=
      List.prefix_of_prefix_length_le (List.prefix_append _ _) found
        (by rw [List.length_drop]; omega)
    obtain ⟨rest, rfl⟩ := inside
    exact ⟨rest, rfl, (List.prefix_append_right_inj _).mp found⟩
  · rintro ⟨rest, rfl, found⟩
    refine ⟨by rw [List.length_append]; omega, (List.prefix_append_right_inj _).mpr found⟩

/-- A pattern that does not begin with a zero stands behind the zeros in front. -/
theorem le_of_occursAt_zeros {byte : UInt8} {rest data : Bytes} {count index : Nat}
    (nonzero : byte ≠ 0) (front : zeros count <+: data)
    (h : OccursAt (byte :: rest) data index) : count ≤ index := by
  obtain ⟨back, rfl⟩ := front
  obtain ⟨before, behind, split, rfl⟩ := occursAt_iff.mp h
  by_contra inside
  have inside : before.length < count := Nat.lt_of_not_le inside
  have zero : (zeros count ++ back)[before.length]? = some 0 := by
    rw [List.getElem?_append_left (by rwa [zeros, List.length_replicate]), zeros,
      List.getElem?_replicate_of_lt inside]
  rw [split, List.append_assoc, List.getElem?_append_right (Nat.le_refl _), Nat.sub_self] at zero
  exact nonzero (Option.some.inj zero)

/-- What is found ends inside the data. -/
theorem le_length_of_firstIndex? {pattern data : Bytes} {index : Nat}
    (h : firstIndex? pattern data = some index) : index + pattern.length ≤ data.length :=
  (firstIndex?_eq_some.mp h).1.1

/-! ## Parts of the data -/

variable {pattern data : Bytes} {index : Nat}

/-- What stands at an offset is the part of the data from there on, as long as the pattern. -/
theorem occursAt_iff_extract (inside : index ≤ data.length) :
    OccursAt pattern data index ↔ data.extract index (index + pattern.length) = pattern := by
  rw [List.extract_eq_take_drop, Nat.add_sub_cancel_left, occursAt_iff_front,
    and_iff_right inside, List.prefix_iff_eq_take]
  exact eq_comm

/-- Behind the end every part is empty. -/
theorem eq_nil_of_extract (outside : data.length < index)
    (same : data.extract index (index + pattern.length) = pattern) : pattern = [] := by
  rw [List.extract_eq_take_drop, List.drop_of_length_le (Nat.le_of_lt outside),
    List.take_nil] at same
  exact same.symm

/-- The first offset at which the pattern stands is the first at which it is a part of the data. -/
theorem isFirst_iff_extract :
    IsFirst pattern data index ↔
      data.extract index (index + pattern.length) = pattern ∧
        ∀ earlier < index, data.extract earlier (earlier + pattern.length) ≠ pattern := by
  constructor
  · rintro ⟨occurs, least⟩
    have inside := (occursAt_iff_front.mp occurs).1
    refine ⟨(occursAt_iff_extract inside).mp occurs, fun earlier before same => ?_⟩
    exact least earlier before ((occursAt_iff_extract (by omega)).mpr same)
  · rintro ⟨same, least⟩
    by_cases inside : index ≤ data.length
    · refine ⟨(occursAt_iff_extract inside).mpr same, fun earlier before occurs => ?_⟩
      exact least earlier before ((occursAt_iff_extract (by omega)).mp occurs)
    · -- an empty pattern is a part from offset zero on already
      obtain rfl := eq_nil_of_extract (Nat.lt_of_not_le inside) same
      have first := (occursAt_iff_extract (Nat.zero_le _)).mp (occursAt_nil data)
      exact absurd first (least 0 (by omega))

theorem occurs_iff_extract :
    Occurs pattern data ↔ ∃ index, data.extract index (index + pattern.length) = pattern := by
  constructor
  · rintro ⟨index, occurs⟩
    exact ⟨index, (occursAt_iff_extract (occursAt_iff_front.mp occurs).1).mp occurs⟩
  · rintro ⟨index, same⟩
    by_cases inside : index ≤ data.length
    · exact ⟨index, (occursAt_iff_extract inside).mpr same⟩
    · obtain rfl := eq_nil_of_extract (Nat.lt_of_not_le inside) same
      exact ⟨0, occursAt_nil data⟩

end SwapCompiler.Bytes
