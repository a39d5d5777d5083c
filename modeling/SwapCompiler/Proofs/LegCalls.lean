import SwapCompiler.Proofs.Compiler

/-!
# What made the calls of a leg

Whenever a payload is made, each of its legs had its calls made in four steps: the deposit, the
approval, the dex call and the cleaning up. Here the four results are kept apart
(`LegCalls.MadeFor`), and compared with the parts of the plan (`LegCalls.MadeFor.planned`).
-/

namespace SwapCompiler

/-- The calls of a leg, by the steps that make them. -/
structure LegCalls where
  deposit : List Call
  approval : List Call
  dex : Call
  cleanUp : List Call

namespace LegCalls

/-- All calls, in the order of the frame. -/
def all (made : LegCalls) : List Call :=
  made.deposit ++ made.approval ++ made.dex :: made.cleanUp

/-- The steps for the leg at a position made these calls. -/
structure MadeFor (network : Network) (wraps : Option WrapTemplates) (ordered : List OrderedLeg)
    (position : Nat) (current : OrderedLeg) (made : LegCalls) : Prop where
  deposit : Assembly.deposit network wraps ordered position current = .ok made.deposit
  approval : Assembly.approval network current = .ok made.approval
  dex : Assembly.dexCall network current.leg current.template current.flags.dex = .ok made.dex
  cleanUp : (if (position : Int) = (ordered.length : Int) - 1 then
    Assembly.cleanUp network wraps ordered current else pure []) = .ok made.cleanUp

variable {network : Network} {wraps : Option WrapTemplates} {ordered : List OrderedLeg}
  {position : Nat} {current : OrderedLeg} {made : LegCalls}

theorem MadeFor.calls (h : made.MadeFor network wraps ordered position current) :
    Assembly.calls network wraps ordered position current = .ok made.all := by
  simp only [Assembly.calls, Outcome.ite_bind, h.dex, h.approval, h.deposit, h.cleanUp,
    Outcome.ok_bind]
  rfl

/-- The calls of a leg are made by the four steps. -/
theorem exists_madeFor {calls : List Call}
    (h : Assembly.calls network wraps ordered position current = .ok calls) :
    ∃ made : LegCalls, made.MadeFor network wraps ordered position current := by
  simp only [Assembly.calls, Outcome.ite_bind, Outcome.bind_eq_ok] at h
  obtain ⟨dex, madeDex, approval, madeApproval, deposit, madeDeposit, cleanUp, madeCleanUp, -⟩ := h
  exact ⟨⟨deposit, approval, dex, cleanUp⟩, madeDeposit, madeApproval, madeDex, madeCleanUp⟩

/-- What was made is what the plan has. -/
theorem MadeFor.planned (assigned : current.Assigned network)
    (h : made.MadeFor network wraps ordered position current) :
    made.deposit = Plan.deposits network wraps ordered position current ∧
      made.approval = Plan.approvals network current ∧
      made.dex = Plan.dex network current.leg current.template current.flags.dex ∧
      made.all = Plan.calls network wraps ordered position current := by
  obtain ⟨-, deposit⟩ := (Assembly.deposit_follows wraps ordered position assigned).sound _ h.deposit
  obtain ⟨-, approval⟩ := (Assembly.approval_follows assigned).sound _ h.approval
  obtain ⟨-, dex⟩ :=
    (Assembly.dexCall_follows network current.leg current.template assigned.plain).sound _ h.dex
  obtain ⟨-, all⟩ := (Assembly.calls_follows assigned).sound _ h.calls
  exact ⟨deposit.symm, approval.symm, dex.symm, all.symm⟩

end LegCalls

namespace Assembly

variable {network : Network} {wraps : Option WrapTemplates} {ordered : List OrderedLeg}
  {position : Nat} {current : OrderedLeg}

/-- Where all frames are made each of them is. -/
theorem exists_legFrame {positions : List Nat} {frames : List Bytes}
    (h : (legFrames network wraps ordered positions).outcome = .ok frames) :
    ∀ position ∈ positions, ∃ frame,
      (legFrame network wraps ordered position).outcome = .ok frame := by
  induction positions generalizing frames with
  | nil =>
    intro position member
    cases member
  | cons first rest ih =>
    simp only [legFrames, Traced.outcome_bind, Outcome.bind_eq_ok] at h
    obtain ⟨frame, made, others, madeOthers, -⟩ := h
    rw [List.forall_mem_cons]
    exact ⟨⟨frame, made⟩, ih madeOthers⟩

theorem exists_calls {frame : Bytes} (at' : ordered[position]? = some current)
    (h : (legFrame network wraps ordered position).outcome = .ok frame) :
    ∃ calls, Assembly.calls network wraps ordered position current = .ok calls := by
  simp only [legFrame, Traced.outcome_bind, Traced.outcome_monadLift, legAt_natCast at',
    Outcome.ok_bind, Outcome.bind_eq_ok] at h
  obtain ⟨calls, made, -⟩ := h
  exact ⟨calls, made⟩

end Assembly

namespace Compiler

variable {network : Network} {route : PriceRoute} {templates : List CallTemplate}
  {sender : String} {wraps : Option WrapTemplates} {payload : Bytes}

/-- Every leg of a payload had its calls made, and they are read back in its frame. -/
theorem exists_legCalls
    (h : (compile network route templates sender wraps).outcome = .ok payload)
    {position : Nat} {current : OrderedLeg}
    (at' : (Plan.ordered network wraps route.legs templates)[position]? = some current) :
    ∃ (made : LegCalls) (frame : Payload.LegFrame),
      made.MadeFor network wraps (Plan.ordered network wraps route.legs templates) position
        current ∧
      (Plan.routeFrames network route templates wraps)[position]? = some frame ∧
      frame.calls = made.all := by
  obtain ⟨admits, -, -⟩ := compile_sound h
  rw [outcome_of_admits sender admits] at h
  obtain ⟨frames, made, -⟩ := Outcome.bind_eq_ok.mp h
  obtain ⟨inside, -⟩ := List.getElem?_eq_some_iff.mp at'
  obtain ⟨bytes, made⟩ := Assembly.exists_legFrame made position (List.mem_range.mpr inside)
  obtain ⟨calls, made⟩ := Assembly.exists_calls at' made
  obtain ⟨made, steps⟩ := LegCalls.exists_madeFor made
  obtain ⟨-, -, -, all⟩ := steps.planned (Plan.assigned_ordered (List.mem_of_getElem? at'))
  have frame := Plan.getElem?_routeFrames network route templates wraps position
  rw [at', Option.map_some] at frame
  exact ⟨made, _, steps, frame, all.symm⟩

end Compiler

end SwapCompiler
