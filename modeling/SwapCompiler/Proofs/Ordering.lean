import SwapCompiler.Proofs.Outcome
import SwapCompiler.Route.Ordering

/-!
# The order of assembly

Legs with their templates and flags are arranged in two rows, those that need no wrapping in
front of those that do. The first leg that needs wrapping therefore stands behind exactly the
legs that need none, wherever it stood before. Otherwise legs keep their order, and each its
template and its flags (`OrderedLeg.order_partitions`).
-/

namespace SwapCompiler.OrderedLeg

/-- Arranging loses no leg and doubles none. -/
theorem perm_arrange (rows : List OrderedLeg) : (arrange rows).Perm rows :=
  List.perm_append_comm.trans (List.filter_append_perm needsWrap rows)

theorem mem_arrange {legs : List OrderedLeg} {current : OrderedLeg} :
    current ∈ arrange legs ↔ current ∈ legs :=
  (perm_arrange legs).mem_iff

theorem length_arrange (legs : List OrderedLeg) : (arrange legs).length = legs.length :=
  (perm_arrange legs).length_eq

/-- Aligned lists are joined without a loss. -/
theorem exists_join {legs : List Leg} {templates : List CallTemplate} {flags : List LegFlags}
    (aligned : templates.length = legs.length) (aligned' : flags.length = legs.length) :
    ∃ rows, join legs templates flags = .ok rows ∧ rows.map (·.leg) = legs ∧
      rows.map (·.template) = templates ∧ rows.map (·.flags) = flags := by
  induction legs generalizing templates flags with
  | nil =>
    obtain rfl := List.eq_nil_of_length_eq_zero aligned
    obtain rfl := List.eq_nil_of_length_eq_zero aligned'
    exact ⟨[], rfl, rfl, rfl, rfl⟩
  | cons leg legs ih =>
    obtain ⟨template, templates, rfl⟩ := List.exists_cons_of_length_eq_add_one aligned
    obtain ⟨first, flags, rfl⟩ := List.exists_cons_of_length_eq_add_one aligned'
    obtain ⟨rows, joined, rfl, rfl, rfl⟩ := ih (Nat.succ.inj aligned) (Nat.succ.inj aligned')
    refine ⟨⟨leg, template, first⟩ :: rows, ?_, rfl, rfl, rfl⟩
    rw [join, joined]
    rfl

/-- Lists that differ in length are not joined. -/
theorem join_of_uneven {legs : List Leg} {templates : List CallTemplate} {flags : List LegFlags}
    (uneven : ¬ (templates.length = legs.length ∧ flags.length = legs.length)) :
    ∃ argument longer, join legs templates flags = .error (.unevenLists argument longer) := by
  fun_induction join legs templates flags with
  | case1 => exact absurd ⟨rfl, rfl⟩ uneven
  | case2 | case3 | case4 | case5 => exact ⟨_, _, rfl⟩
  | case6 leg legs template templates first flags ih =>
    simp only [List.length_cons, Nat.add_right_cancel_iff] at uneven
    obtain ⟨argument, longer, failed⟩ := ih uneven
    exact ⟨argument, longer, by rw [failed]; rfl⟩

/-- Lists are joined exactly into the rows that they are the columns of. -/
theorem join_eq_ok {legs : List Leg} {templates : List CallTemplate} {flags : List LegFlags}
    {rows : List OrderedLeg} :
    join legs templates flags = .ok rows ↔
      rows.map (·.leg) = legs ∧ rows.map (·.template) = templates ∧ rows.map (·.flags) = flags := by
  constructor
  · intro joined
    by_cases aligned : templates.length = legs.length ∧ flags.length = legs.length
    · obtain ⟨others, joined', columns⟩ := exists_join aligned.1 aligned.2
      rw [joined] at joined'
      cases joined'
      exact columns
    · obtain ⟨argument, longer, failed⟩ := join_of_uneven aligned
      rw [failed] at joined
      cases joined
  · rintro ⟨rfl, rfl, rfl⟩
    induction rows with
    | nil => rfl
    | cons row rows ih =>
      rw [List.map_cons, List.map_cons, List.map_cons, join, ih]
      rfl

theorem leg_mem_of_order {legs : List Leg} {templates : List CallTemplate}
    {flags : List LegFlags} {ordered : List OrderedLeg} {current : OrderedLeg}
    (h : order legs templates flags = .ok ordered) (member : current ∈ ordered) :
    current.leg ∈ legs := by
  obtain ⟨rows, joined, rfl⟩ := Outcome.map_eq_ok.mp h
  rw [← (join_eq_ok.mp joined).1]
  exact List.mem_map_of_mem (mem_arrange.mp member)

/-- Behind the legs that need no wrapping stands the first one that does. -/
theorem getElem?_arrange (rows : List OrderedLeg) :
    (arrange rows)[rows.countP (!·.needsWrap)]? = rows.find? (·.needsWrap) := by
  rw [List.countP_eq_length_filter, arrange, List.getElem?_append_right (Nat.le_refl _),
    Nat.sub_self, ← List.head?_eq_getElem?, List.head?_filter]

theorem findIdx?_filter_needsWrap (rows : List OrderedLeg) :
    (rows.filter (·.needsWrap)).findIdx? (·.needsWrap) =
      (rows.findIdx? (·.needsWrap)).map fun _ => 0 := by
  -- legs in front of the first one that needs wrapping are dropped, so its index becomes zero
  induction rows with
  | nil => rfl
  | cons row rows ih =>
    rw [List.findIdx?_cons]
    cases needs : row.needsWrap with
    | true =>
      rw [List.filter_cons_of_pos needs, List.findIdx?_cons, if_pos needs]
      rfl
    | false =>
      rw [List.filter_cons_of_neg (Bool.eq_false_iff.mp needs), ih]
      cases rows.findIdx? (·.needsWrap) <;> rfl

/-- After arranging, the first leg that needs wrapping is found there. -/
theorem findIdx?_arrange (rows : List OrderedLeg) :
    (arrange rows).findIdx? (·.needsWrap) =
      (rows.findIdx? (·.needsWrap)).map fun _ => rows.countP (!·.needsWrap) := by
  have front : (rows.filter (!·.needsWrap)).findIdx? (·.needsWrap) = none := by
    rw [List.findIdx?_eq_none_iff]
    intro row member
    simpa using (List.mem_filter.mp member).2
  rw [arrange, List.findIdx?_append, front, Option.none_or, findIdx?_filter_needsWrap,
    List.countP_eq_length_filter]
  cases rows.findIdx? (·.needsWrap) with
  | none => rfl
  | some index => rw [Option.map_some, Option.map_some, Option.map_some, Nat.zero_add]

/-- The order of aligned lists, and where it has the first leg that needs wrapping. -/
theorem exists_order {legs : List Leg} {templates : List CallTemplate} {flags : List LegFlags}
    (aligned : templates.length = legs.length) (aligned' : flags.length = legs.length) :
    ∃ ordered, order legs templates flags = .ok ordered ∧
      ordered.findIdx? (·.needsWrap) =
        (templates.findIdx? (·.needsWrap)).map (fun _ => templates.countP (!·.needsWrap)) ∧
      ∀ index, templates.findIdx? (·.needsWrap) = some index →
        ∃ current, ordered[templates.countP (!·.needsWrap)]? = some current ∧
          legs[index]? = some current.leg ∧ templates[index]? = some current.template ∧
          flags[index]? = some current.flags := by
  obtain ⟨rows, joined, rfl, rfl, rfl⟩ := exists_join aligned aligned'
  -- a search among the templates is one among the joined rows
  refine ⟨arrange rows, by rw [order, joined]; rfl, ?_, fun index wanted => ?_⟩
  · rw [findIdx?_arrange, List.findIdx?_map, List.countP_map]
    rfl
  · rw [List.findIdx?_map] at wanted
    obtain ⟨within, -, -⟩ := List.findIdx?_eq_some_iff_getElem.mp wanted
    have first : rows.find? (·.needsWrap) = some rows[index] := by
      rw [List.find?_eq_bind_findIdx?_getElem?]
      exact (congrArg (Option.bind · _) wanted).trans (List.getElem?_eq_getElem within)
    refine ⟨rows[index], ?_, ?_, ?_, ?_⟩
    · rw [List.countP_map, ← first]
      exact getElem?_arrange rows
    all_goals simp [within]

/-! ## A stable partition -/

/-- What is arranged stays as it is. -/
theorem arrange_arrange (rows : List OrderedLeg) : arrange (arrange rows) = arrange rows := by
  simp [arrange, List.filter_append, List.filter_filter]

/-- The row holds what the three lists have at the place. -/
structure StandsAt (legs : List Leg) (templates : List CallTemplate) (flags : List LegFlags)
    (row : OrderedLeg) (place : Nat) : Prop where
  leg : legs[place]? = some row.leg
  template : templates[place]? = some row.template
  flags : flags[place]? = some row.flags

/-- A row with its former place may stand in front of another: it needs no wrapping unless the
other does, and if both need the same it stood in front before. -/
structure Precedes (first second : OrderedLeg × Nat) : Prop where
  need : first.1.needsWrap = true → second.1.needsWrap = true
  place : first.1.needsWrap = second.1.needsWrap → first.2 < second.2

/-- Rows with their places, arranged as the rows are. -/
def arrangePlaced (placed : List (OrderedLeg × Nat)) : List (OrderedLeg × Nat) :=
  placed.filter (!·.1.needsWrap) ++ placed.filter (·.1.needsWrap)

theorem map_fst_arrangePlaced (placed : List (OrderedLeg × Nat)) :
    (arrangePlaced placed).map Prod.fst = arrange (placed.map Prod.fst) := by
  rw [arrangePlaced, arrange, List.map_append, List.filter_map, List.filter_map]
  rfl

theorem perm_arrangePlaced (placed : List (OrderedLeg × Nat)) :
    (arrangePlaced placed).Perm placed :=
  List.perm_append_comm.trans (List.filter_append_perm (·.1.needsWrap) placed)

/-- Rows that stand in the order of their places are arranged so that each precedes those behind
it. -/
theorem pairwise_arrangePlaced {placed : List (OrderedLeg × Nat)}
    (sorted : placed.Pairwise fun first second => first.2 < second.2) :
    (arrangePlaced placed).Pairwise Precedes := by
  rw [arrangePlaced, List.pairwise_append]
  refine ⟨?_, ?_, ?_⟩
  · refine (sorted.filter _).imp_of_mem fun {first second} first' _ before => ?_
    have needless : first.1.needsWrap = false := by simpa using (List.mem_filter.mp first').2
    refine ⟨fun needs => ?_, fun _ => before⟩
    rw [needless] at needs
    cases needs
  · refine (sorted.filter _).imp_of_mem fun {first second} _ second' before => ?_
    exact ⟨fun _ => (List.mem_filter.mp second').2, fun _ => before⟩
  · rintro first first' second second'
    have needless : first.1.needsWrap = false := by simpa using (List.mem_filter.mp first').2
    have needs : second.1.needsWrap = true := (List.mem_filter.mp second').2
    refine ⟨fun _ => needs, fun same => ?_⟩
    rw [needless, needs] at same
    cases same

/-- Lists of one length are ordered into a permutation of their rows, in which every row is still
the leg, the template and the flags of one place. Rows that need no wrapping stand in front of those
that do, in the order of their places, and so do those that do; what is ordered so stays as it is.
Lists of different lengths are not ordered. -/
theorem order_partitions (legs : List Leg) (templates : List CallTemplate)
    (flags : List LegFlags) :
    (templates.length = legs.length ∧ flags.length = legs.length →
      ∃ (ordered : List OrderedLeg) (places : List Nat),
        order legs templates flags = .ok ordered ∧
        places.Perm (List.range legs.length) ∧
        List.Forall₂ (StandsAt legs templates flags) ordered places ∧
        (ordered.zip places).Pairwise Precedes ∧
        order (ordered.map (·.leg)) (ordered.map (·.template)) (ordered.map (·.flags)) =
          .ok ordered) ∧
    (¬ (templates.length = legs.length ∧ flags.length = legs.length) →
      ∃ argument longer,
        order legs templates flags = .error (.unevenLists argument longer)) := by
  constructor
  · rintro ⟨aligned, aligned'⟩
    obtain ⟨rows, joined, rfl, rfl, rfl⟩ := exists_join aligned aligned'
    have placed : (arrangePlaced rows.zipIdx).map Prod.fst = arrange rows := by
      rw [map_fst_arrangePlaced, List.zipIdx_map_fst]
    have sorted : rows.zipIdx.Pairwise fun first second => first.2 < second.2 := by
      rw [← List.pairwise_map, List.zipIdx_map_snd]
      exact List.pairwise_lt_range'
    refine ⟨arrange rows, (arrangePlaced rows.zipIdx).map Prod.snd, ?_, ?_, ?_, ?_, ?_⟩
    · rw [order, joined]
      rfl
    · rw [List.length_map, List.range_eq_range', ← List.zipIdx_map_snd 0 rows]
      exact (perm_arrangePlaced rows.zipIdx).map Prod.snd
    · rw [← placed, List.forall₂_map_left_iff, List.forall₂_map_right_iff, List.forall₂_same]
      intro place member
      have at' := List.mem_zipIdx_iff_getElem?.mp ((perm_arrangePlaced _).mem_iff.mp member)
      exact ⟨by simp [at'], by simp [at'], by simp [at']⟩
    · rw [← placed, ← List.zip_of_prod rfl rfl]
      exact pairwise_arrangePlaced sorted
    · rw [order, join_eq_ok.mpr ⟨rfl, rfl, rfl⟩]
      exact congrArg Except.ok (arrange_arrange rows)
  · intro uneven
    obtain ⟨argument, longer, failed⟩ := join_of_uneven uneven
    exact ⟨argument, longer, by rw [order, failed]; rfl⟩

end SwapCompiler.OrderedLeg
