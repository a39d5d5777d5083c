import SwapCompiler.Proofs.Contents

/-!
# Patch points lie inside their calls

A call whose flag inserts the amount gives the position of a 32-byte word that is to be
overwritten. Of the calls in a payload only the transfer of leftover output and the withdrawal
have such a flag. The word of a transfer is its last argument. That of a withdrawal is taken to
stand behind the selector, whatever call data the withdraw template has.
-/

namespace SwapCompiler

namespace Sample

/-- The exchange leaves its output with the executor. -/
def keepsOutput : List CallTemplate := [template false false]

/-- A withdrawal that has not even a selector. -/
def emptyWithdrawal : Option WrapTemplates := some ⟨none, some ⟨wrapper, ⟨"0x", by decide⟩⟩⟩

end Sample

/-- The word that the call has patched stands inside its data. -/
def Call.PatchInside (call : Call) : Prop := call.fromAmountPos.toNat + 32 ≤ call.data.length

namespace Plan

variable {network : Network} {wraps : Option WrapTemplates} {ordered : List OrderedLeg}
  {position : Nat} {current : OrderedLeg}

theorem patchInside_transfer {token receiver : Bytes} (length : receiver.length = 20) :
    (transfer token receiver).PatchInside := by
  simp [Call.PatchInside, transfer, Abi.transferSelector, length]

theorem patchInside_withdraw {template : WrapCall} :
    (withdraw template).PatchInside ↔ 36 ≤ template.data.content.length :=
  Iff.rfl

/-- Only transfers and withdrawals have an amount inserted. -/
theorem patchInside_of_mem_calls (assigned : current.Assigned network)
    (receiver : position + 1 = ordered.length → ReceiverRead network ordered current)
    {call : Call} (h : call ∈ calls network wraps ordered position current)
    (inserts : Flag.insertsAmount call.flag.toNat = true) :
    call.PatchInside ∨
      ∃ template, WrapTemplates.withdraw? wraps = some template ∧ call = withdraw template := by
  -- the flags of all other calls insert nothing
  have closed (flag : Int) (plain : Flag.insertsAmount flag = false)
      (inserts : Flag.insertsAmount flag = true) : False := by
    rw [plain] at inserts
    cases inserts
  obtain ⟨token, -, rfl⟩ | ⟨template, -, rfl⟩ | rfl | ⟨last, h⟩ := mem_calls h
  · exact (closed 0 (by decide) inserts).elim
  · exact (closed 9 (by decide) inserts).elim
  · rw [toNat_flag_dex] at inserts
    exact (closed _ assigned.plain inserts).elim
  · obtain ⟨member, rfl⟩ | ⟨template, given, rfl⟩ | rfl := mem_cleanUp h
    · exact .inl (patchInside_transfer (receiver last (List.ne_nil_of_mem member)))
    · exact .inr ⟨template, given, rfl⟩
    · exact (closed 0 (by decide) inserts).elim

end Plan

namespace Compiler

variable {network : Network} {route : PriceRoute} {templates : List CallTemplate}
  {sender : String} {wraps : Option WrapTemplates} {payload : Bytes}

/-- In a payload every word that has an amount inserted stands inside its call, but for that of
a withdraw template with less than a selector and a word. -/
theorem patchPoint_inside_iff
    (h : (compile network route templates sender wraps).outcome = .ok payload)
    {contents : Payload.Contents} (read : Payload.read? payload = some contents)
    {frame : Payload.LegFrame} (inside : frame ∈ contents.frames) {call : Call}
    (member : call ∈ frame.calls) (inserts : Flag.insertsAmount call.flag.toNat = true) :
    call.fromAmountPos.toNat + 32 ≤ call.data.length ↔
      ¬ ∃ template, WrapTemplates.withdraw? wraps = some template ∧
        call = Plan.withdraw template ∧ template.data.content.length < 36 := by
  have planned := read?_of_compile h
  obtain ⟨-, fits, -⟩ := compile_sound h
  rw [planned] at read
  cases read
  obtain ⟨position, within, rfl⟩ := List.mem_mapIdx.mp inside
  have at' := List.getElem?_eq_getElem within
  have assigned := Plan.assigned_ordered (List.getElem_mem within)
  constructor
  · rintro patched ⟨template, -, rfl, short⟩
    have long := Plan.patchInside_withdraw.mp patched
    omega
  · intro long
    obtain patched | ⟨template, given, rfl⟩ := Plan.patchInside_of_mem_calls assigned
      (fits.legs position _ at').receiver member inserts
    · exact patched
    · refine Plan.patchInside_withdraw.mpr ?_
      by_contra short
      exact long ⟨template, given, rfl, by omega⟩

theorem patchPoint_inside_of_transfer :
    ∃ payload contents frame call,
      (compile Sample.network (Sample.route Sample.legs) Sample.keepsOutput "" none).outcome =
        .ok payload ∧
      Payload.read? payload = some contents ∧
      frame ∈ contents.frames ∧ call ∈ frame.calls ∧
      Flag.insertsAmount call.flag.toNat = true ∧
      call.fromAmountPos.toNat + 32 ≤ call.data.length := by
  have patched : ((compile Sample.network (Sample.route Sample.legs) Sample.keepsOutput ""
      none).outcome.toOption.bind Payload.read?).any (fun contents =>
        contents.frames.any fun frame =>
          frame.calls.any fun call => Flag.insertsAmount call.flag.toNat) = true := by
    decide +kernel
  obtain ⟨payload, contents, made, read, patched⟩ := exists_contents patched
  obtain ⟨frame, inside, patched⟩ := List.any_eq_true.mp patched
  obtain ⟨call, member, inserts⟩ := List.any_eq_true.mp patched
  refine ⟨payload, contents, frame, call, made, read, inside, member, inserts,
    (patchPoint_inside_iff made read inside member inserts).mpr ?_⟩
  rintro ⟨template, given, -⟩
  cases given

/-- The word of a withdrawal without call data stands outside of its call. -/
theorem patchPoint_of_empty_withdrawal_outside :
    ∃ payload contents frame call,
      (compile Sample.network (Sample.route [Sample.leg Sample.token Sample.native 100])
        [Sample.template true false] "" Sample.emptyWithdrawal).outcome = .ok payload ∧
      Payload.read? payload = some contents ∧
      frame ∈ contents.frames ∧ call ∈ frame.calls ∧
      Flag.insertsAmount call.flag.toNat = true ∧
      call.data.length < call.fromAmountPos.toNat + 32 := by
  have outside : ((compile Sample.network
      (Sample.route [Sample.leg Sample.token Sample.native 100]) [Sample.template true false] ""
      Sample.emptyWithdrawal).outcome.toOption.bind Payload.read?).any (fun contents =>
        contents.frames.any fun frame => frame.calls.any fun call =>
          Flag.insertsAmount call.flag.toNat &&
            call.data.length < call.fromAmountPos.toNat + 32) = true := by
    decide +kernel
  obtain ⟨payload, contents, made, read, outside⟩ := exists_contents outside
  obtain ⟨frame, inside, outside⟩ := List.any_eq_true.mp outside
  obtain ⟨call, member, outside⟩ := List.any_eq_true.mp outside
  rw [Bool.and_eq_true, decide_eq_true_eq] at outside
  exact ⟨payload, contents, frame, call, made, read, inside, member, outside⟩

end Compiler

end SwapCompiler
