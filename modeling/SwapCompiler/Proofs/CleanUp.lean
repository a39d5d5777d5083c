import SwapCompiler.Proofs.Contents

/-!
# Where leftover output goes

Output that an exchange leaves with the executor is moved on behind the dex call of the last
leg. A token is transferred to the receiver as soon as any leg lacks a recipient. Native
value is forwarded if the last leg in the order of assembly lacks one, or if it has been
withdrawn: what the exchanges of other legs leave behind plays no part.
-/

namespace SwapCompiler

namespace Sample

/-- The exchange of the first of two legs leaves its output with the executor. -/
def firstKeepsOutput : List CallTemplate := [template false false, template true false]

end Sample

namespace Plan

variable {network : Network} {wraps : Option WrapTemplates} {ordered : List OrderedLeg}

theorem transfer_mem_cleanUp {last : OrderedLeg}
    (left : ∃ current ∈ ordered, current.template.hasRecipient = false)
    (foreign : network.isNative last.leg.destToken.text = false) :
    transfer last.leg.destToken.bytes (Address.bytesOf network.receiver) ∈
      cleanUp network wraps ordered last := by
  have any : ordered.any (!·.template.hasRecipient) = true := by
    obtain ⟨current, member, none⟩ := left
    exact List.any_eq_true.mpr ⟨current, member, by rw [none]; rfl⟩
  simp [cleanUp, transfers, any, foreign]

theorem forwardNative_mem_cleanUp {last : OrderedLeg}
    (native : network.isNative last.leg.destToken.text = true) :
    forwardNative ∈ cleanUp network wraps ordered last ↔
      last.template.hasRecipient = false ∨ (WrapTemplates.withdraw? wraps).isSome = true := by
  -- a withdrawal is told apart by its flag
  have other (template : WrapCall) : forwardNative ≠ withdraw template := by
    intro same
    have flags : (0 : UInt16) = 7 := congrArg Call.flag same
    exact absurd flags (by decide)
  have noTransfer : transfers network ordered last = [] := by
    simp [transfers, native]
  have noWithdrawal : forwardNative ∉ withdrawals network wraps last := by
    simp only [withdrawals, native, if_true, Option.mem_toList, Option.map_eq_some_iff, not_exists]
    rintro template ⟨-, same⟩
    exact other template same.symm
  rw [cleanUp, noTransfer, List.nil_append, List.mem_append, or_iff_right noWithdrawal, forwards,
    native, Bool.true_and]
  cases last.template.hasRecipient <;> simp

/-- The frame of the last leg has the calls that clean up behind its dex call. -/
theorem frames_append_singleton (network : Network) (wraps : Option WrapTemplates)
    {front : List OrderedLeg} {last : OrderedLeg} (split : ordered = front ++ [last]) :
    ∃ others frame before,
      frames network wraps ordered = others ++ [frame] ∧
      frame.calls = before ++ dex network last.leg last.template last.flags.dex ::
        cleanUp network wraps ordered last := by
  have length : front.length + 1 = ordered.length := by
    simp [split]
  have calls : calls network wraps ordered front.length last =
      deposits network wraps ordered front.length last ++ approvals network last ++
        dex network last.leg last.template last.flags.dex ::
          cleanUp network wraps ordered last := by
    rw [Plan.calls, if_pos length]
  refine ⟨front.mapIdx (frame network wraps ordered),
    frame network wraps ordered front.length last, _, ?_, calls⟩
  rw [frames]
  generalize frame network wraps ordered = f
  rw [split, List.mapIdx_concat]

end Plan

namespace Compiler

variable {network : Network} {route : PriceRoute} {templates : List CallTemplate}
  {sender : String} {wraps : Option WrapTemplates} {payload : Bytes}

/-- Where all legs buy the same token and some template has no recipient, the last frame
moves on what is left: a token is transferred, native value is forwarded exactly if the last
leg has no recipient or a withdrawal is given. -/
theorem leftover_moved
    (h : (compile network route templates sender wraps).outcome = .ok payload) (dest : Address)
    (same : ∀ leg ∈ route.legs, Address.normalize leg.destToken.text = Address.normalize dest.text)
    (left : ∃ template ∈ templates, template.hasRecipient = false) :
    ∃ flags front last contents frames frame before after,
      Classification.flags network wraps route.legs templates = .ok flags ∧
      OrderedLeg.order route.legs templates flags = .ok (front ++ [last]) ∧
      Payload.read? payload = some contents ∧
      contents.frames = frames ++ [frame] ∧
      frame.calls =
        before ++ Plan.dex network last.leg last.template last.flags.dex :: after ∧
      (network.isNative dest.text = false →
        Plan.transfer dest.bytes (Address.bytesOf network.receiver) ∈ after) ∧
      (network.isNative dest.text = true →
        (Plan.forwardNative ∈ after ↔
          last.template.hasRecipient = false ∨ (WrapTemplates.withdraw? wraps).isSome = true)) := by
  have read := read?_of_compile h
  obtain ⟨admits, -, -⟩ := compile_sound h
  obtain ⟨flags, classified, arranged⟩ := order_of_admits admits
  obtain ⟨front, last, split⟩ : ∃ front last,
      Plan.ordered network wraps route.legs templates = front ++ [last] := by
    have nonempty : Plan.ordered network wraps route.legs templates ≠ [] := by
      intro empty
      have length := Plan.length_ordered network wraps admits.aligned
      rw [empty] at length
      exact admits.legs (List.eq_nil_of_length_eq_zero length.symm)
    exact ⟨_, _, (List.dropLast_append_getLast nonempty).symm⟩
  obtain ⟨others, frame, before, frames, calls⟩ := Plan.frames_append_singleton
    network wraps split
  have member : last ∈ Plan.ordered network wraps route.legs templates := by
    simp [split]
  have spelled := same last.leg (Plan.leg_mem_of_mem_ordered member).1
  have native := network.isNative_congr spelled
  refine ⟨flags, front, last, _, others, frame, before, _, classified, by rw [arranged, split],
    read, frames, calls, fun foreign => ?_, fun isNative => ?_⟩
  · obtain ⟨template, inside, none⟩ := left
    obtain ⟨current, planned, rfl⟩ := Plan.exists_mem_ordered admits.aligned inside
    rw [← Address.bytes_eq_of_normalize spelled]
    exact Plan.transfer_mem_cleanUp ⟨current, planned, none⟩ (native.trans foreign)
  · exact Plan.forwardNative_mem_cleanUp (native.trans isNative)

theorem leftover_moved_behind_last_half :
    (∃ payload,
      (compile Sample.network (Sample.route (Sample.halves Sample.native Sample.token))
        Sample.firstKeepsOutput "" none).outcome = .ok payload ∧
      ∃ flags front last contents frames frame before after,
        Classification.flags Sample.network none (Sample.halves Sample.native Sample.token)
          Sample.firstKeepsOutput = .ok flags ∧
        OrderedLeg.order (Sample.halves Sample.native Sample.token) Sample.firstKeepsOutput
          flags = .ok (front ++ [last]) ∧
        Payload.read? payload = some contents ∧
        contents.frames = frames ++ [frame] ∧
        frame.calls =
          before ++ Plan.dex Sample.network last.leg last.template last.flags.dex :: after ∧
        Plan.transfer Sample.token.bytes (Address.bytesOf Sample.network.receiver) ∈ after) ∧
    ∃ payload,
      (compile Sample.network (Sample.route (Sample.halves Sample.token Sample.native))
        Sample.firstKeepsOutput "" Sample.withdraws).outcome = .ok payload ∧
      ∃ flags front last contents frames frame before after,
        Classification.flags Sample.network Sample.withdraws
          (Sample.halves Sample.token Sample.native) Sample.firstKeepsOutput = .ok flags ∧
        OrderedLeg.order (Sample.halves Sample.token Sample.native) Sample.firstKeepsOutput
          flags = .ok (front ++ [last]) ∧
        Payload.read? payload = some contents ∧
        contents.frames = frames ++ [frame] ∧
        frame.calls =
          before ++ Plan.dex Sample.network last.leg last.template last.flags.dex :: after ∧
        Plan.forwardNative ∈ after := by
  have same (srcToken destToken : Address) : ∀ leg ∈ Sample.halves srcToken destToken,
      Address.normalize leg.destToken.text = Address.normalize destToken.text := by
    simp [Sample.halves, Sample.leg]
  have left : ∃ template ∈ Sample.firstKeepsOutput, template.hasRecipient = false :=
    ⟨_, List.mem_cons_self, rfl⟩
  constructor
  · have made : (compile Sample.network (Sample.route (Sample.halves Sample.native Sample.token))
        Sample.firstKeepsOutput "" none).outcome.isOk = true := by
      decide +kernel
    obtain ⟨payload, made⟩ := Outcome.exists_of_isOk made
    obtain ⟨flags, front, last, contents, frames, frame, before, after, classified, arranged,
      read, inside, calls, transferred, -⟩ := leftover_moved made Sample.token (same _ _) left
    exact ⟨payload, made, flags, front, last, contents, frames, frame, before, after, classified,
      arranged, read, inside, calls, transferred Sample.isNative_token⟩
  · have made : (compile Sample.network (Sample.route (Sample.halves Sample.token Sample.native))
        Sample.firstKeepsOutput "" Sample.withdraws).outcome.isOk = true := by
      decide +kernel
    obtain ⟨payload, made⟩ := Outcome.exists_of_isOk made
    obtain ⟨flags, front, last, contents, frames, frame, before, after, classified, arranged,
      read, inside, calls, -, forwarded⟩ := leftover_moved made Sample.native (same _ _) left
    exact ⟨payload, made, flags, front, last, contents, frames, frame, before, after, classified,
      arranged, read, inside, calls, (forwarded Sample.isNative_native).mpr (.inr rfl)⟩

/-- Native value that the first of two legs leaves with the executor stays there if the
second leg has a recipient. -/
theorem native_leftover_of_first_half_stays :
    ∃ payload contents,
      (compile Sample.network (Sample.route (Sample.halves Sample.token Sample.native))
        Sample.firstKeepsOutput "" none).outcome = .ok payload ∧
      Payload.read? payload = some contents ∧
      (∀ leg ∈ Sample.halves Sample.token Sample.native, leg.destToken = Sample.native) ∧
      Sample.network.isNative Sample.native.text = true ∧
      (∃ template ∈ Sample.firstKeepsOutput, template.hasRecipient = false) ∧
      ∃ frame, contents.frames.getLast? = some frame ∧
        ∀ call ∈ frame.calls, call.specialDex ≠ 2 ∧ call.flag ≠ 11 := by
  have stays : ((compile Sample.network (Sample.route (Sample.halves Sample.token Sample.native))
      Sample.firstKeepsOutput "" none).outcome.toOption.bind Payload.read?).any
      (fun contents => contents.frames.getLast?.any fun frame =>
        frame.calls.all fun call => call.specialDex != 2 && call.flag != 11) = true := by
    decide +kernel
  obtain ⟨payload, contents, made, read, stays⟩ := exists_contents stays
  obtain ⟨frame, last, stays⟩ := (Option.any_eq_true _ _).mp stays
  refine ⟨payload, contents, made, read, ?_, ?_, ⟨_, List.mem_cons_self, rfl⟩, frame, last, ?_⟩
  · simp [Sample.halves, Sample.leg]
  · exact Sample.isNative_native
  · intro call member
    simpa using List.all_eq_true.mp stays call member

end Compiler

end SwapCompiler
