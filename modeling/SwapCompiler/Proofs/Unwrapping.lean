import SwapCompiler.Proofs.Contents

/-!
# What is checked before a withdrawal

A payload for one leg withdraws whenever native value is bought and a withdrawal is given. The
flag of the dex call in front of it comes from the classification, which asks for more: it has
the balance of the wrapped token checked only if the template needs wrapping or native value is
sold as well. In any other case the native balance is checked.
-/

namespace SwapCompiler

namespace Sample

/-- The wrapped token is the only argument. -/
def wrapperArgument (needsWrap : Bool) : CallTemplate :=
  ⟨exchange, ⟨"0x12345678000000000000000000000000c02aaa39b223fe8d0a0e5c4f27ead9083c756cc2",
    by decide⟩, true, needsWrap, 0⟩

theorem unwrap_withdrawal : Call.unwrap withdrawal = .ok (Plan.withdraw withdrawal) :=
  (Call.unwrap_follows withdrawal).complete trivial ⟨Address.length_bytes _, by decide +kernel⟩

end Sample

namespace Plan

variable {network : Network} {wraps : Option WrapTemplates} {ordered : List OrderedLeg}
  {position : Nat} {current last : OrderedLeg}

theorem cleanUp_of_foreign (foreign : network.isNative last.leg.destToken.text = false) :
    cleanUp network wraps ordered last = transfers network ordered last := by
  simp [cleanUp, withdrawals, forwards, foreign]

theorem cleanUp_of_withdrawal (native : network.isNative last.leg.destToken.text = true)
    {template : WrapCall} (given : WrapTemplates.withdraw? wraps = some template) :
    cleanUp network wraps ordered last = [withdraw template, forwardNative] := by
  simp [cleanUp, transfers, withdrawals, forwards, native, given]

/-- A withdrawal stands behind the dex call of the last leg, which buys native value. -/
theorem native_of_withdraw_mem_calls (assigned : current.Assigned network) {template : WrapCall}
    (h : withdraw template ∈ calls network wraps ordered position current) :
    position + 1 = ordered.length ∧ network.isNative current.leg.destToken.text = true := by
  rcases mem_calls h with ⟨token, -, same⟩ | ⟨deposit, -, same⟩ | same | ⟨last, h⟩
  · exact absurd (congrArg Call.flag same) (by simp [withdraw, approve])
  · exact absurd (congrArg Call.flag same) (by simp [withdraw, Plan.deposit])
  · -- no dex call has an amount inserted
    have flag : (7 : Int) = current.flags.dex.toInt := by
      rw [← toNat_flag_dex network current.leg current.template current.flags.dex, ← same]
      rfl
    have plain := assigned.plain
    rw [← flag] at plain
    exact absurd plain (by decide)
  · refine ⟨last, ?_⟩
    by_contra foreign
    rw [cleanUp_of_foreign (Bool.eq_false_iff.mpr foreign)] at h
    unfold transfers at h
    split at h
    · exact absurd (congrArg Call.flag (List.mem_singleton.mp h)) (by simp [withdraw, transfer])
    · cases h

theorem calls_of_withdrawal (last : position + 1 = ordered.length)
    (native : network.isNative current.leg.destToken.text = true)
    {template : WrapCall} (given : WrapTemplates.withdraw? wraps = some template) :
    calls network wraps ordered position current =
      deposits network wraps ordered position current ++ approvals network current ++
        dex network current.leg current.template current.flags.dex ::
          [withdraw template, forwardNative] := by
  rw [calls, if_pos last, cleanUp_of_withdrawal native given]

/-- The flag of an only leg whose output is withdrawn. -/
theorem flag_of_withdrawal (leg : Leg) (template : CallTemplate)
    (native : network.isNative leg.destToken.text = true)
    (given : (WrapTemplates.withdraw? wraps).isSome = true) :
    if template.needsWrap = true ∨ network.isNative leg.srcToken.text = true then
      checksToken (Classification.single network wraps leg template).dex = true
    else (Classification.single network wraps leg template).dex = 4 := by
  unfold Classification.single
  cases template.needsWrap <;> cases network.isNative leg.srcToken.text <;>
    cases (WrapTemplates.deposit? wraps).isSome <;> simp [native, given] <;> rfl

/-- The position in a dex call that fits, if a token is checked. -/
theorem firstIndex?_of_fits {leg : Leg} {template : CallTemplate} {flag : Flag}
    (fits : DexFits network leg template flag) (checks : checksToken flag = true) :
    Bytes.firstIndex? (balanceToken network leg) (dex network leg template flag).data =
      some ((dex network leg template flag).balanceCheckPos.toNat + 12) := by
  obtain ⟨index, found, late⟩ := fits.balanceFound checks
  have position : balancePos network leg template flag = index - 12 := by
    rw [balancePos, if_pos checks, found, Option.getD_some]
  have written : (dex network leg template flag).balanceCheckPos.toNat = index - 12 := by
    have small := fits.balancePos
    rw [position] at small
    simp only [dex, position]
    exact UInt16.toNat_ofNat_of_lt' small
  rw [written, Nat.sub_add_cancel late]
  exact found

end Plan

namespace Compiler

variable {network : Network} {route : PriceRoute} {leg : Leg} {template : CallTemplate}
  {sender : String} {wraps : Option WrapTemplates} {payload : Bytes}

/-- In the payload of an only leg a withdrawal stands directly behind the dex call. If the
template needs wrapping or native value is sold, then that call has the balance of a token
checked, and its position is that of the wrapped token's first occurrence; else it has the
native balance checked. -/
theorem checked_before_withdrawal (only : route.legs = [leg])
    (h : (compile network route [template] sender wraps).outcome = .ok payload)
    {contents : Payload.Contents} (read : Payload.read? payload = some contents)
    {frame : Payload.LegFrame} (inside : frame ∈ contents.frames)
    {withdrawal : WrapCall} (given : WrapTemplates.withdraw? wraps = some withdrawal)
    {unwrap : Call} (made : Call.unwrap withdrawal = .ok unwrap) (member : unwrap ∈ frame.calls) :
    ∃ before dex after,
      frame.calls = before ++ dex :: unwrap :: after ∧
      Assembly.dexCall network leg template
        (Classification.single network wraps leg template).dex = .ok dex ∧
      if template.needsWrap = true ∨ network.isNative leg.srcToken.text = true then
        Flag.balanceCheck dex.flag.toNat = .destToken ∧
          Bytes.firstIndex? (Address.bytesOf network.wrappedNative) dex.data =
            some (dex.balanceCheckPos.toNat + 12)
      else Flag.balanceCheck dex.flag.toNat = .native := by
  have planned := read?_of_compile h
  obtain ⟨-, fits, -⟩ := compile_sound h
  rw [planned] at read
  cases read
  obtain ⟨-, rfl⟩ := (Call.unwrap_follows withdrawal).sound unwrap made
  have ordered : Plan.ordered network wraps route.legs [template] =
      [⟨leg, template, Classification.single network wraps leg template⟩] := by
    rw [only, Plan.ordered_singleton]
  rw [Plan.routeFrames, ordered, Plan.frames, List.mapIdx_singleton, List.mem_singleton] at inside
  subst inside
  have fits := fits.legs 0 ⟨leg, template, _⟩ (by rw [ordered]; rfl)
  have assigned : OrderedLeg.Assigned network
      ⟨leg, template, Classification.single network wraps leg template⟩ :=
    Plan.assigned_ordered (by rw [ordered]; exact List.mem_singleton_self _)
  obtain ⟨last, native⟩ := Plan.native_of_withdraw_mem_calls assigned member
  refine ⟨_, Plan.dex network leg template _, _, Plan.calls_of_withdrawal last native given,
    (Assembly.dexCall_follows network leg template assigned.plain).complete
      ⟨fits.dex.amounts, fits.dex.balanceFound⟩ fits.dex, ?_⟩
  have flag := Plan.flag_of_withdrawal leg template native (by rw [given]; rfl)
  rw [Plan.toNat_flag_dex]
  split at flag
  · rename_i wrapped
    rw [if_pos wrapped, Plan.balanceCheck_eq_destToken]
    have found := Plan.firstIndex?_of_fits fits.dex flag
    rw [Plan.balanceToken, if_pos native] at found
    exact ⟨flag, found⟩
  · rename_i plain
    rw [if_neg plain, flag]
    rfl

theorem checked_before_withdrawal_of_wrapped_output :
    ∃ payload contents frame unwrap,
      (compile Sample.network (Sample.route Sample.buysNative) [Sample.wrapperArgument true] ""
        Sample.withdraws).outcome = .ok payload ∧
      Payload.read? payload = some contents ∧ frame ∈ contents.frames ∧
      Call.unwrap Sample.withdrawal = .ok unwrap ∧ unwrap ∈ frame.calls ∧
      ∃ before dex after,
        frame.calls = before ++ dex :: unwrap :: after ∧
        Flag.balanceCheck dex.flag.toNat = .destToken ∧
        Bytes.firstIndex? (Address.bytesOf Sample.network.wrappedNative) dex.data =
          some (dex.balanceCheckPos.toNat + 12) := by
  have found : ((compile Sample.network (Sample.route Sample.buysNative)
      [Sample.wrapperArgument true] "" Sample.withdraws).outcome.toOption.bind Payload.read?).any
        (fun contents => contents.frames.any fun frame =>
          frame.calls.contains (Plan.withdraw Sample.withdrawal)) = true := by
    decide +kernel
  obtain ⟨payload, contents, made, read, found⟩ := exists_contents found
  obtain ⟨frame, inside, found⟩ := List.any_eq_true.mp found
  have member := List.contains_iff_mem.mp found
  obtain ⟨before, dex, after, calls, -, checked⟩ :=
    @checked_before_withdrawal _ (Sample.route Sample.buysNative) _ _ _ _ _ rfl made _ read _
      inside _ rfl _ Sample.unwrap_withdrawal member
  rw [if_pos (.inl rfl)] at checked
  exact ⟨payload, contents, frame, _, made, read, inside, Sample.unwrap_withdrawal, member, before,
    dex, after, calls, checked⟩

/-- Where the template needs no wrapping and no native value is sold, no call of a payload
that withdraws has the balance of a token checked. -/
theorem unchecked_before_withdrawal_of_native_output :
    ∃ payload contents frame unwrap,
      (compile Sample.network (Sample.route Sample.buysNative) [Sample.wrapperArgument false] ""
        Sample.withdraws).outcome = .ok payload ∧
      Payload.read? payload = some contents ∧ frame ∈ contents.frames ∧
      Call.unwrap Sample.withdrawal = .ok unwrap ∧ unwrap ∈ frame.calls ∧
      ∀ call ∈ frame.calls, Flag.balanceCheck call.flag.toNat ≠ .destToken := by
  have found : ((compile Sample.network (Sample.route Sample.buysNative)
      [Sample.wrapperArgument false] "" Sample.withdraws).outcome.toOption.bind Payload.read?).any
        (fun contents => contents.frames.any fun frame =>
          frame.calls.contains (Plan.withdraw Sample.withdrawal) &&
            frame.calls.all fun call => Flag.balanceCheck call.flag.toNat ≠ .destToken) = true := by
    decide +kernel
  obtain ⟨payload, contents, made, read, found⟩ := exists_contents found
  obtain ⟨frame, inside, found⟩ := List.any_eq_true.mp found
  rw [Bool.and_eq_true] at found
  refine ⟨payload, contents, frame, _, made, read, inside, Sample.unwrap_withdrawal,
    List.contains_iff_mem.mp found.1, ?_⟩
  intro call member
  exact of_decide_eq_true (List.all_eq_true.mp found.2 call member)

end Compiler

end SwapCompiler
