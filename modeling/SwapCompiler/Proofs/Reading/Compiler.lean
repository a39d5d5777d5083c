import SwapCompiler.Proofs.Compiler
import SwapCompiler.Proofs.Reading.Assembly

/-!
# What a compilation reads

Two requests end alike, in the same payload or in the same fault, if the same is read of their
legs, of their templates, and of their wrap templates where these are needed
(`Compiler.outcome_congr`). The sender and the addresses of executors are not read.
-/

namespace SwapCompiler

/-- Only a leg on its own has its flags read off the wrap templates, and those only where it
needs them. -/
theorem Classification.single_congr {network : Network} {wraps wraps' : Option WrapTemplates}
    {leg leg' : Leg} {template template' : CallTemplate} (sameLeg : leg.reading = leg'.reading)
    (sameTemplate : template.reading = template'.reading)
    (deposit : template.needsWrap = true →
      (WrapTemplates.deposit? wraps).isSome = (WrapTemplates.deposit? wraps').isSome)
    (withdraw : network.isNative leg.destToken.text = true →
      (WrapTemplates.withdraw? wraps).isSome = (WrapTemplates.withdraw? wraps').isSome) :
    single network wraps leg template = single network wraps' leg' template' := by
  unfold single
  rw [← network.isNative_congr (Leg.srcToken_congr sameLeg),
    ← network.isNative_congr (Leg.destToken_congr sameLeg),
    ← CallTemplate.needsWrap_congr sameTemplate, ← CallTemplate.hasRecipient_congr sameTemplate]
  cases needs : template.needsWrap with
  | false => simp only [Bool.false_and]
  | true =>
    rw [deposit needs]
    cases native : network.isNative leg.destToken.text with
    | false => simp only [Bool.false_and, Bool.and_false]
    | true => rw [withdraw native]

namespace Compiler

/-- The last leg in the order of assembly buys native value. -/
def BuysNativeLast (network : Network) (legs : List Leg) (templates : List CallTemplate) : Prop :=
  ∃ flags front last, OrderedLeg.order legs templates flags = .ok (front ++ [last]) ∧
    network.isNative last.leg.destToken.text = true

/-- Two requests to a network of which the same is read. -/
structure ReadsAlike (network : Network) (route route' : PriceRoute)
    (templates templates' : List CallTemplate) (wraps wraps' : Option WrapTemplates) : Prop where
  legReadings : route.legs.map Leg.reading = route'.legs.map Leg.reading
  templateReadings : templates.map CallTemplate.reading = templates'.map CallTemplate.reading
  deposit : (∃ template ∈ templates, template.needsWrap = true) →
    (WrapTemplates.deposit? wraps).map WrapCall.reading =
      (WrapTemplates.deposit? wraps').map WrapCall.reading
  withdraw : BuysNativeLast network route.legs templates →
    (WrapTemplates.withdraw? wraps).map WrapCall.reading =
      (WrapTemplates.withdraw? wraps').map WrapCall.reading

variable {network : Network} {route route' : PriceRoute}
  {templates templates' : List CallTemplate} {wraps wraps' : Option WrapTemplates}

namespace ReadsAlike

theorem length_legs (h : ReadsAlike network route route' templates templates' wraps wraps') :
    route.legs.length = route'.legs.length := by
  rw [← List.length_map Leg.reading, h.legReadings, List.length_map]

theorem length_templates
    (h : ReadsAlike network route route' templates templates' wraps wraps') :
    templates.length = templates'.length := by
  rw [← List.length_map CallTemplate.reading, h.templateReadings, List.length_map]

/-- What the request needs of the wrap templates is what the ordered legs need. -/
theorem wrapsAlike (h : ReadsAlike network route route' templates templates' wraps wraps')
    (aligned : templates.length = route.legs.length) :
    WrapsAlike network wraps wraps' (Plan.ordered network wraps route.legs templates) where
  deposit := by
    rintro ⟨current, member, needs⟩
    exact h.deposit ⟨_, (Plan.leg_mem_of_mem_ordered member).2, needs⟩
  withdraw last isLast native := by
    obtain ⟨front, split⟩ := List.getLast?_eq_some_iff.mp isLast
    have arranged := OrderedLeg.order_eq network wraps aligned
    rw [split] at arranged
    exact h.withdraw ⟨_, front, last, arranged, native⟩

/-- The legs are assembled in the same order and with the same flags. -/
theorem ordered_congr (h : ReadsAlike network route route' templates templates' wraps wraps')
    (aligned : templates.length = route.legs.length) :
    (Plan.ordered network wraps route.legs templates).map OrderedLeg.reading =
      (Plan.ordered network wraps' route'.legs templates').map OrderedLeg.reading := by
  by_cases one : route.legs.length = 1
  · obtain ⟨leg, only⟩ := List.length_eq_one_iff.mp one
    obtain ⟨leg', only'⟩ := List.length_eq_one_iff.mp (h.length_legs.symm.trans one)
    obtain ⟨template, rfl⟩ := List.length_eq_one_iff.mp (aligned.trans one)
    obtain ⟨template', rfl⟩ := List.length_eq_one_iff.mp
      (h.length_templates.symm.trans (aligned.trans one))
    have legs := h.legReadings
    rw [only, only'] at legs
    have sameLeg : leg.reading = leg'.reading := (List.cons.inj legs).1
    have sameTemplate : template.reading = template'.reading := (List.cons.inj h.templateReadings).1
    have alike := h.wrapsAlike aligned
    rw [only, Plan.ordered_singleton] at alike
    have flags : Classification.single network wraps leg template =
        Classification.single network wraps' leg' template' := by
      refine Classification.single_congr sameLeg sameTemplate (fun needs => ?_) fun native => ?_
      · simpa using congrArg Option.isSome (alike.deposit ⟨_, List.mem_singleton_self _, needs⟩)
      · simpa using congrArg Option.isSome (alike.withdraw _ rfl native)
    rw [only, only', Plan.ordered_singleton, Plan.ordered_singleton, List.map_singleton,
      List.map_singleton, OrderedLeg.reading, OrderedLeg.reading]
    simp only [sameLeg, sameTemplate, flags]
  · -- legs side by side have no flags
    have rows {wraps : Option WrapTemplates} {legs : List Leg} {templates : List CallTemplate}
        (many : legs.length ≠ 1) :
        (List.zipWith (fun leg template => OrderedLeg.mk leg template
          (Plan.flags network wraps legs.length leg template)) legs templates).map
            OrderedLeg.reading =
          List.zipWith (fun leg template => OrderedLeg.Reading.mk leg template ⟨0, 0⟩)
            (legs.map Leg.reading) (templates.map CallTemplate.reading) := by
      simp only [List.map_zipWith, List.zipWith_map, OrderedLeg.reading, Plan.flags, if_neg many,
        Classification.parallel]
    refine OrderedLeg.arrange_congr ?_
    rw [rows one, rows (h.length_legs ▸ one), h.legReadings, h.templateReadings]

theorem missingDeposit?_congr
    (h : ReadsAlike network route route' templates templates' wraps wraps') :
    missingDeposit? network wraps route.legs templates =
      missingDeposit? network wraps' route'.legs templates' := by
  have first : templates.findIdx? (·.needsWrap) = templates'.findIdx? (·.needsWrap) := by
    have read := congrArg (List.findIdx? (·.needsWrap)) h.templateReadings
    rwa [List.findIdx?_map, List.findIdx?_map] at read
  unfold missingDeposit?
  rw [← first]
  cases found : templates.findIdx? (·.needsWrap) with
  | none => rfl
  | some index =>
    have needed : ∃ template ∈ templates, template.needsWrap = true := by
      rw [← List.any_eq_true, ← List.findIdx?_isSome, found]
      rfl
    have given : (WrapTemplates.deposit? wraps).isNone = (WrapTemplates.deposit? wraps').isNone := by
      simpa using congrArg Option.isNone (h.deposit needed)
    have read := congrArg (·[index]?) h.legReadings
    simp only [List.getElem?_map] at read
    cases at' : route.legs[index]? with
    | none =>
      rw [at', Option.map_none] at read
      simp only [at', Option.map_eq_none_iff.mp read.symm]
    | some leg =>
      rw [at', Option.map_some] at read
      obtain ⟨leg', at'', same⟩ := Option.map_eq_some_iff.mp read.symm
      simp only [at', at'', given, network.isNative_congr (Leg.srcToken_congr same)]

theorem outcome_checkPreconditions_congr
    (h : ReadsAlike network route route' templates templates' wraps wraps') :
    (checkPreconditions network route templates wraps).outcome =
      (checkPreconditions network route' templates' wraps').outcome := by
  have empty : route.legs = [] ↔ route'.legs = [] := by
    rw [← List.length_eq_zero_iff, h.length_legs, List.length_eq_zero_iff]
  rw [outcome_checkPreconditions, outcome_checkPreconditions, h.length_legs, h.length_templates,
    h.missingDeposit?_congr]
  exact if_congr empty rfl rfl

end ReadsAlike

/-- Two requests of which the same is read end alike. -/
theorem outcome_congr (h : ReadsAlike network route route' templates templates' wraps wraps')
    (sender sender' : String) :
    (compile network route templates sender wraps).outcome =
      (compile network route' templates' sender' wraps').outcome := by
  have checked := h.outcome_checkPreconditions_congr
  cases met : (checkPreconditions network route templates wraps).outcome with
  | error fault =>
    rw [outcome_compile, outcome_compile, ← checked, met, Outcome.error_bind, Outcome.error_bind]
  | ok =>
    rw [met] at checked
    have admits := outcome_checkPreconditions_eq_ok.mp met
    have admits' := outcome_checkPreconditions_eq_ok.mp checked.symm
    have rows := h.ordered_congr admits.aligned
    rw [outcome_of_admits sender admits, outcome_of_admits sender' admits',
      ← OrderedLeg.length_congr rows,
      Assembly.legFrames_congr rows (h.wrapsAlike admits.aligned)
        (fun _ => Plan.assigned_ordered) fun _ => List.mem_range.mp]

/-- The addresses of executors are not read. -/
theorem compile_executors (executors : List (Executor × String)) :
    compile { network with executors } = compile network := by
  funext route templates sender wraps
  simp only [compile, Assembly.legFrames_executors]
  rfl

end Compiler

end SwapCompiler
