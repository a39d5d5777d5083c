import SwapCompiler.Proofs.Assembly
import SwapCompiler.Proofs.Ordering

/-!
# The compiler follows the plan

A route is admitted if it has legs, as many templates as legs, and a deposit where one is
needed (`Compiler.Admits`). For an admitted route the flags and the order of assembly are
those of the plan, and the outcome is its payload, provided that every leg fits
(`compile_follows`). A payload is read back as the frames of the plan
(`read?_of_compile`).
-/

namespace SwapCompiler

/-! ## Flags and order -/

namespace Classification

theorem pair_eq_zip {α β : Type} {as : List α} {bs : List β} (aligned : bs.length = as.length) :
    pair as bs = .ok (as.zip bs) := by
  induction as generalizing bs with
  | nil =>
    obtain rfl := List.eq_nil_of_length_eq_zero aligned
    rfl
  | cons a as ih =>
    obtain ⟨b, bs, rfl⟩ := List.exists_cons_of_length_eq_add_one aligned
    rw [pair, ih (Nat.succ.inj aligned)]
    rfl

/-- The flags of aligned lists are those of the plan. -/
theorem flags_eq (network : Network) (wraps : Option WrapTemplates) {legs : List Leg}
    {templates : List CallTemplate} (aligned : templates.length = legs.length) :
    flags network wraps legs templates =
      .ok (List.zipWith (Plan.flags network wraps legs.length) legs templates) := by
  have classified : (fun pair : Leg × CallTemplate =>
        (if legs.length = 1 then single network wraps else parallel network wraps) pair.1 pair.2) =
      Function.uncurry (Plan.flags network wraps legs.length) := by
    funext ⟨leg, template⟩
    rw [Function.uncurry_apply_pair, Plan.flags]
    by_cases one : legs.length = 1
    · rw [if_pos one, if_pos one]
    · rw [if_neg one, if_neg one]
  rw [flags, pair_eq_zip aligned]
  simp only [Except.map]
  rw [← List.map_uncurry_zip_eq_zipWith, ← classified]

end Classification

namespace OrderedLeg

theorem join_eq {legs : List Leg} {templates : List CallTemplate}
    (f : Leg → CallTemplate → LegFlags) (aligned : templates.length = legs.length) :
    join legs templates (List.zipWith f legs templates) =
      .ok (List.zipWith (fun leg template => ⟨leg, template, f leg template⟩) legs templates) := by
  induction legs generalizing templates with
  | nil =>
    obtain rfl := List.eq_nil_of_length_eq_zero aligned
    rfl
  | cons leg legs ih =>
    obtain ⟨template, templates, rfl⟩ := List.exists_cons_of_length_eq_add_one aligned
    rw [List.zipWith_cons_cons, join, ih (Nat.succ.inj aligned)]
    rfl

/-- The order of assembly of aligned lists is that of the plan. -/
theorem order_eq (network : Network) (wraps : Option WrapTemplates) {legs : List Leg}
    {templates : List CallTemplate} (aligned : templates.length = legs.length) :
    order legs templates (List.zipWith (Plan.flags network wraps legs.length) legs templates) =
      .ok (Plan.ordered network wraps legs templates) := by
  rw [order, join_eq _ aligned]
  rfl

end OrderedLeg

namespace Plan

variable {network : Network} {wraps : Option WrapTemplates} {legs : List Leg}
  {templates : List CallTemplate}

/-- A planned leg is a leg with its template and its flags. -/
theorem mem_ordered {current : OrderedLeg} :
    current ∈ ordered network wraps legs templates ↔
      ∃ leg template, (leg, template) ∈ legs.zip templates ∧
        current = ⟨leg, template, flags network wraps legs.length leg template⟩ := by
  rw [ordered, OrderedLeg.mem_arrange, ← List.map_uncurry_zip_eq_zipWith, List.mem_map]
  constructor
  · rintro ⟨⟨leg, template⟩, member, rfl⟩
    exact ⟨leg, template, member, rfl⟩
  · rintro ⟨leg, template, member, rfl⟩
    exact ⟨(leg, template), member, rfl⟩

theorem length_ordered (network : Network) (wraps : Option WrapTemplates)
    (aligned : templates.length = legs.length) :
    (ordered network wraps legs templates).length = legs.length := by
  rw [ordered, OrderedLeg.length_arrange, List.length_zipWith, aligned, Nat.min_self]

theorem leg_mem_of_mem_ordered {current : OrderedLeg}
    (h : current ∈ ordered network wraps legs templates) :
    current.leg ∈ legs ∧ current.template ∈ templates := by
  obtain ⟨leg, template, member, rfl⟩ := mem_ordered.mp h
  exact List.of_mem_zip member

/-- Every template is that of a planned leg. -/
theorem exists_mem_ordered (aligned : templates.length = legs.length) {template : CallTemplate}
    (h : template ∈ templates) :
    ∃ current ∈ ordered network wraps legs templates, current.template = template := by
  rw [← List.map_snd_zip (Nat.le_of_eq aligned)] at h
  obtain ⟨⟨leg, _⟩, member, rfl⟩ := List.mem_map.mp h
  exact ⟨_, mem_ordered.mpr ⟨leg, _, member, rfl⟩, rfl⟩

/-- The flags of the classification: none insert an amount, and five is for sellers of
native value. -/
theorem flags_cases (network : Network) (wraps : Option WrapTemplates) (count : Nat) (leg : Leg)
    (template : CallTemplate) :
    flags network wraps count leg template = ⟨5, 0⟩ ∧ network.isNative leg.srcToken.text = true ∨
      flags network wraps count leg template = ⟨4, 0⟩ ∨
      flags network wraps count leg template = ⟨8, 0⟩ ∨
      flags network wraps count leg template = ⟨0, 0⟩ := by
  -- only a leg on its own is told apart, legs side by side have no flags
  unfold flags Classification.single Classification.parallel
  split
  · dsimp only
    split
    · rename_i native
      rw [Bool.and_eq_true] at native
      exact .inl ⟨rfl, native.1⟩
    · split
      · exact .inr (.inl rfl)
      · split
        · exact .inr (.inr (.inl rfl))
        · exact .inr (.inr (.inr rfl))
  · exact .inr (.inr (.inr rfl))

theorem flags_of_one (network : Network) (wraps : Option WrapTemplates) {count : Nat} (leg : Leg)
    (template : CallTemplate) (one : count = 1) :
    flags network wraps count leg template =
      Classification.single network wraps leg template :=
  if_pos one

theorem ordered_singleton (network : Network) (wraps : Option WrapTemplates) (leg : Leg)
    (template : CallTemplate) :
    ordered network wraps [leg] [template] =
      [⟨leg, template, Classification.single network wraps leg template⟩] := by
  unfold ordered OrderedLeg.arrange OrderedLeg.needsWrap
  cases needs : template.needsWrap <;> simp [needs, flags]

theorem flags_plain (network : Network) (wraps : Option WrapTemplates) (count : Nat) (leg : Leg)
    (template : CallTemplate) :
    (flags network wraps count leg template).approve = 0 ∧
      Flag.insertsAmount (flags network wraps count leg template).dex.toInt = false ∧
      ((flags network wraps count leg template).dex.toInt % 4 = 1 →
        network.isNative leg.srcToken.text = true) := by
  obtain ⟨same, native⟩ | same | same | same := flags_cases network wraps count leg template
  · rw [same]
    exact ⟨rfl, by decide, fun _ => native⟩
  · rw [same]
    exact ⟨rfl, by decide, fun sends => absurd sends (by decide)⟩
  · rw [same]
    exact ⟨rfl, by decide, fun sends => absurd sends (by decide)⟩
  · rw [same]
    exact ⟨rfl, by decide, fun sends => absurd sends (by decide)⟩

/-- The frame at a position is that of the leg there. -/
theorem getElem?_routeFrames (network : Network) (route : PriceRoute)
    (templates : List CallTemplate) (wraps : Option WrapTemplates) (position : Nat) :
    (routeFrames network route templates wraps)[position]? =
      (ordered network wraps route.legs templates)[position]?.map
        (frame network wraps (ordered network wraps route.legs templates) position) := by
  rw [routeFrames, frames, List.getElem?_mapIdx]

theorem assigned_ordered {current : OrderedLeg}
    (h : current ∈ ordered network wraps legs templates) : current.Assigned network := by
  obtain ⟨leg, template, -, rfl⟩ := mem_ordered.mp h
  obtain ⟨approve, plain, native⟩ := flags_plain network wraps legs.length leg template
  exact ⟨approve, plain, native⟩

end Plan

namespace Compiler

/-! ## Preconditions -/

/-- The route can be compiled, as far as its shape goes. -/
structure Admits (network : Network) (route : PriceRoute) (templates : List CallTemplate)
    (wraps : Option WrapTemplates) : Prop where
  legs : route.legs ≠ []
  aligned : templates.length = route.legs.length
  deposit : missingDeposit? network wraps route.legs templates = none

/-- The first precondition that is not met decides. -/
theorem outcome_checkPreconditions (network : Network) (route : PriceRoute)
    (templates : List CallTemplate) (wraps : Option WrapTemplates) :
    (checkPreconditions network route templates wraps).outcome =
      if route.legs = [] then .error Refusal.emptyRoute
      else if templates.length ≠ route.legs.length then
        .error (Refusal.misalignedTemplates templates.length route.legs.length)
      else match missingDeposit? network wraps route.legs templates with
        | some leg => .error (Refusal.missingDeposit leg)
        | none => .ok () := by
  unfold checkPreconditions PriceRoute.legs
  cases route.bestRoute with
  | nil => rfl
  | cons best others =>
    simp only [List.isEmpty_iff]
    by_cases empty : best.legs = []
    · simp only [empty, if_true]
      rfl
    · simp only [if_neg empty]
      by_cases aligned : templates.length = best.legs.length
      · simp only [aligned, ne_eq, not_true_eq_false, if_false]
        split <;> cases missingDeposit? network wraps best.legs templates <;> rfl
      · simp only [aligned, ne_eq, not_false_eq_true, if_true]
        rfl

theorem outcome_checkPreconditions_eq_ok {network : Network} {route : PriceRoute}
    {templates : List CallTemplate} {wraps : Option WrapTemplates} :
    (checkPreconditions network route templates wraps).outcome = .ok () ↔
      Admits network route templates wraps := by
  rw [outcome_checkPreconditions]
  constructor
  · intro h
    split at h
    · cases h
    · split at h
      · cases h
      · split at h
        · cases h
        · exact ⟨by assumption, by omega, by assumption⟩
  · rintro ⟨legs, aligned, deposit⟩
    rw [if_neg legs, if_neg (not_not_intro aligned), deposit]

/-! ## Payloads -/

/-- Texts and tokens of a route are in order, so that only the widths of headers matter. -/
def Regular (network : Network) (route : PriceRoute) (templates : List CallTemplate)
    (wraps : Option WrapTemplates) : Prop :=
  ∀ current ∈ Plan.ordered network wraps route.legs templates, Plan.LegRegular network current

/-- When the payload of an admitted route can be made. -/
structure Fits (network : Network) (route : PriceRoute) (templates : List CallTemplate)
    (wraps : Option WrapTemplates) : Prop where
  legs : ∀ position current,
    (Plan.ordered network wraps route.legs templates)[position]? = some current →
      Plan.LegFits network wraps (Plan.ordered network wraps route.legs templates) position current
  length : (Plan.body network route templates wraps).length + Payload.callerBytes <
    Bytes.capacity 32

variable {network : Network} {route : PriceRoute} {templates : List CallTemplate}
  {sender : String} {wraps : Option WrapTemplates} {payload : Bytes}

/-- The steps behind the preconditions. -/
theorem outcome_compile (network : Network) (route : PriceRoute) (templates : List CallTemplate)
    (sender : String) (wraps : Option WrapTemplates) :
    (compile network route templates sender wraps).outcome =
      (checkPreconditions network route templates wraps).outcome >>= fun _ =>
        Classification.flags network wraps route.legs templates >>= fun flags =>
          OrderedLeg.order route.legs templates flags >>= fun ordered =>
            (Assembly.legFrames network wraps ordered (List.range ordered.length)).outcome >>=
              fun frames => Payload.frame frames.flatten >>= fun payload => pure payload := by
  simp only [compile, Traced.outcome_bind, Traced.outcome_monadLift, Traced.outcome_report,
    Traced.outcome_pure, Outcome.ok_bind]
  rfl

/-- Behind the preconditions the frames of the ordered legs are made and framed. -/
theorem outcome_of_admits (sender : String) (admits : Admits network route templates wraps) :
    (compile network route templates sender wraps).outcome =
      (Assembly.legFrames network wraps (Plan.ordered network wraps route.legs templates)
        (List.range (Plan.ordered network wraps route.legs templates).length)).outcome >>=
          fun frames => Payload.frame frames.flatten >>= fun payload => pure payload := by
  rw [outcome_compile, outcome_checkPreconditions_eq_ok.mpr admits, Outcome.ok_bind,
    Classification.flags_eq network wraps admits.aligned, Outcome.ok_bind,
    OrderedLeg.order_eq network wraps admits.aligned, Outcome.ok_bind]

/-- Behind the preconditions the compiler follows the plan. -/
theorem compile_follows (sender : String) (admits : Admits network route templates wraps) :
    Follows (Regular network route templates wraps)
      (compile network route templates sender wraps).outcome
      (Fits network route templates wraps) (Plan.payload network route templates wraps) := by
  rw [outcome_of_admits sender admits]
  refine Follows.congr ?_ ?_ (Follows.bind
    (Assembly.legFrames_follows network wraps fun _ => Plan.assigned_ordered) fun _ =>
      Follows.bind_pure id ((Payload.frame_follows
        (Plan.routeFrames network route templates wraps)).mono fun _ => trivial))
  · rintro ⟨legs, length⟩
    exact ⟨legs, length⟩
  · rintro - ⟨legs, length⟩
    exact ⟨legs, length⟩

/-- A payload is only made for an admitted route that fits, and is the planned one. -/
theorem compile_sound
    (h : (compile network route templates sender wraps).outcome = .ok payload) :
    Admits network route templates wraps ∧ Fits network route templates wraps ∧
      Plan.payload network route templates wraps = payload := by
  have admits : Admits network route templates wraps := by
    rw [outcome_compile] at h
    obtain ⟨_, checked, -⟩ := Outcome.bind_eq_ok.mp h
    exact outcome_checkPreconditions_eq_ok.mp checked
  exact ⟨admits, (compile_follows sender admits).sound payload h⟩

/-- A payload is read back as the planned frames. -/
theorem read?_of_compile
    (h : (compile network route templates sender wraps).outcome = .ok payload) :
    Payload.read? payload = some ⟨Payload.dataOffset,
      (Plan.body network route templates wraps).length + Payload.callerBytes,
      Plan.routeFrames network route templates wraps⟩ := by
  obtain ⟨-, fits, rfl⟩ := compile_sound h
  refine Payload.read?_encode (fun frame member => ?_) fits.length
  obtain ⟨position, inside, rfl⟩ := List.mem_mapIdx.mp member
  exact (fits.legs position _ (List.getElem?_eq_getElem inside)).frame

end Compiler

end SwapCompiler
