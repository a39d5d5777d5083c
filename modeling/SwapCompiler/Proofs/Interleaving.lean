import SwapCompiler.Proofs.Deposits
import SwapCompiler.Proofs.Ending

/-!
# Interleavings of the same legs

Legs that need wrapping go behind the others before anything is made of them. So it does not
matter how the two sorts were mixed in the request, but for the leg that is named when a
deposit is missing.
-/

namespace SwapCompiler

/-- Legs and templates in rows that differ only in how the legs that need wrapping are mixed
with those that do not. -/
structure Interleaved (legs legs' : List Leg) (templates templates' : List CallTemplate) :
    Prop where
  aligned : templates.length = legs.length
  aligned' : templates'.length = legs'.length
  plain : (legs.zip templates).filter (!·.2.needsWrap) =
    (legs'.zip templates').filter (!·.2.needsWrap)
  wrapping : (legs.zip templates).filter (·.2.needsWrap) =
    (legs'.zip templates').filter (·.2.needsWrap)

namespace Plan

/-- The order of assembly depends on the two rows of legs only. -/
theorem ordered_eq_map (network : Network) (wraps : Option WrapTemplates) (legs : List Leg)
    (templates : List CallTemplate) :
    ordered network wraps legs templates =
      ((legs.zip templates).filter (!·.2.needsWrap) ++
        (legs.zip templates).filter (·.2.needsWrap)).map fun pair =>
          ⟨pair.1, pair.2, flags network wraps legs.length pair.1 pair.2⟩ := by
  rw [ordered, ← List.map_uncurry_zip_eq_zipWith, OrderedLeg.arrange, List.filter_map,
    List.filter_map, List.map_append]
  rfl

end Plan

namespace Interleaved

variable {legs legs' : List Leg} {templates templates' : List CallTemplate}

theorem length_eq (h : Interleaved legs legs' templates templates') :
    legs.length = legs'.length := by
  have zipped : (legs.zip templates).length = legs.length := by
    rw [List.length_zip, h.aligned, Nat.min_self]
  have zipped' : (legs'.zip templates').length = legs'.length := by
    rw [List.length_zip, h.aligned', Nat.min_self]
  rw [← zipped, ← zipped', List.length_eq_length_filter_add fun pair => pair.2.needsWrap,
    h.plain, h.wrapping, ← List.length_eq_length_filter_add]

theorem ordered_eq (h : Interleaved legs legs' templates templates') (network : Network)
    (wraps : Option WrapTemplates) :
    Plan.ordered network wraps legs templates = Plan.ordered network wraps legs' templates' := by
  rw [Plan.ordered_eq_map, Plan.ordered_eq_map, h.plain, h.wrapping, h.length_eq]

/-- The first leg that needs wrapping is the same. -/
theorem find?_eq (h : Interleaved legs legs' templates templates') :
    (legs.zip templates).find? (·.2.needsWrap) = (legs'.zip templates').find? (·.2.needsWrap) := by
  rw [← List.head?_filter, ← List.head?_filter, h.wrapping]

end Interleaved

namespace Compiler

variable {network : Network} {route route' : PriceRoute}
  {templates templates' : List CallTemplate} {wraps : Option WrapTemplates}

theorem lacksDeposit_iff (h : Interleaved route.legs route'.legs templates templates') :
    LacksDeposit network route templates wraps ↔ LacksDeposit network route' templates' wraps := by
  unfold LacksDeposit
  rw [h.find?_eq]

theorem outcome_of_no_legs (sender : String) (none : route.legs = []) :
    (compile network route templates sender wraps).outcome = .error Refusal.emptyRoute := by
  rw [outcome_compile, outcome_checkPreconditions, if_pos none, Outcome.error_bind]

theorem exists_outcome_of_lacksDeposit (sender : String) (some : route.legs ≠ [])
    (aligned : templates.length = route.legs.length)
    (lacking : LacksDeposit network route templates wraps) :
    ∃ index, (compile network route templates sender wraps).outcome =
      .error (Refusal.missingDeposit index) := by
  rw [outcome_compile, outcome_checkPreconditions, if_neg some, if_neg (not_not_intro aligned)]
  cases missing : missingDeposit? network wraps route.legs templates with
  | none => exact absurd lacking ((missingDeposit?_eq_none aligned).mp missing)
  | some index => exact ⟨index, Outcome.error_bind ..⟩

/-- Two requests that differ only in how the legs that need wrapping are mixed with the others
end alike: in the same payload, or in the same fault, or both lack a deposit. -/
theorem outcome_of_interleaved
    (h : Interleaved route.legs route'.legs templates templates') (sender sender' : String) :
    (compile network route templates sender wraps).outcome =
        (compile network route' templates' sender' wraps).outcome ∨
      ∃ index index',
        (compile network route templates sender wraps).outcome =
          .error (Refusal.missingDeposit index) ∧
        (compile network route' templates' sender' wraps).outcome =
          .error (Refusal.missingDeposit index') := by
  have length := h.length_eq
  by_cases none : route.legs = []
  · left
    have none' : route'.legs = [] := by
      rwa [← List.length_eq_zero_iff, ← length, List.length_eq_zero_iff]
    rw [outcome_of_no_legs sender none, outcome_of_no_legs sender' none']
  have some' : route'.legs ≠ [] := by
    rwa [Ne, ← List.length_eq_zero_iff, ← length, List.length_eq_zero_iff]
  -- the index of the leg without a deposit is the only thing that tells the requests apart
  by_cases lacking : LacksDeposit network route templates wraps
  · right
    obtain ⟨index, ends⟩ := exists_outcome_of_lacksDeposit sender none h.aligned lacking
    obtain ⟨index', ends'⟩ :=
      exists_outcome_of_lacksDeposit sender' some' h.aligned' ((lacksDeposit_iff h).mp lacking)
    exact ⟨index, index', ends, ends'⟩
  · left
    have admits : Admits network route templates wraps :=
      ⟨none, h.aligned, (missingDeposit?_eq_none h.aligned).mpr lacking⟩
    have admits' : Admits network route' templates' wraps :=
      ⟨some', h.aligned',
        (missingDeposit?_eq_none h.aligned').mpr (mt (lacksDeposit_iff h).mpr lacking)⟩
    rw [outcome_of_admits sender admits, outcome_of_admits sender' admits', h.ordered_eq]

theorem outcome_of_interleaved_halves :
    Interleaved Sample.sellsHalves.legs Sample.sellsHalves.legs Sample.wrappingFirst
        Sample.wrappingFirst.reverse ∧
      ∃ payload,
        (compile Sample.network Sample.sellsHalves Sample.wrappingFirst "" Sample.wraps).outcome =
          .ok payload ∧
        (compile Sample.network Sample.sellsHalves Sample.wrappingFirst.reverse ""
          Sample.wraps).outcome = .ok payload := by
  have interleaved : Interleaved Sample.sellsHalves.legs Sample.sellsHalves.legs
      Sample.wrappingFirst Sample.wrappingFirst.reverse :=
    ⟨rfl, rfl, rfl, rfl⟩
  obtain ⟨payload, made⟩ := Sample.exists_payload_of_sellsHalves
  refine ⟨interleaved, payload, made, ?_⟩
  rcases outcome_of_interleaved interleaved "" "" with same | ⟨index, index', refused, -⟩
  · rw [← same, made]
  · rw [made] at refused
    cases refused

end Compiler

end SwapCompiler
