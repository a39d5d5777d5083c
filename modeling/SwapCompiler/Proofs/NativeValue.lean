import SwapCompiler.Proofs.Deposits
import SwapCompiler.Proofs.LegCalls

/-!
# Native value is sent at most once

Two kinds of calls send native value: deposits, and the dex call of an only leg that sells native
value. The classification decides about the second from the template and the deposit, the
assembly about the first from the order of the legs; no leg has both
(`Plan.no_deposit_of_sends`). So one call of a payload sends native value or none
(`Compiler.native_value_sent_once`).
-/

namespace SwapCompiler

/-- Whether the executor sends native value with the call. -/
def Call.sendsNative (call : Call) : Bool := Flag.sendsNative call.flag.toNat

/-- The calls that send native value, in the order of the payload. -/
def Payload.Contents.senders (contents : Payload.Contents) : List Call :=
  contents.frames.flatMap fun frame => frame.calls.filter (·.sendsNative)

/-- Rows of at most one member make a row of at most one, if all but one of them are empty. -/
theorem length_flatMap_le_one {α β : Type} {rows : List α} {f : α → List β} {k : Nat}
    (short : ∀ row ∈ rows, (f row).length ≤ 1)
    (empty : ∀ i row, rows[i]? = some row → i ≠ k → f row = []) :
    (rows.flatMap f).length ≤ 1 := by
  -- along the rows, the place of the one that may have a member comes nearer
  induction rows generalizing k with
  | nil => exact Nat.zero_le 1
  | cons row rows ih =>
    rw [List.forall_mem_cons] at short
    rw [List.flatMap_cons]
    cases k with
    | zero =>
      have others : rows.flatMap f = [] := by
        rw [List.flatMap_eq_nil_iff]
        intro row member
        obtain ⟨i, at'⟩ := List.mem_iff_getElem?.mp member
        exact empty (i + 1) row at' (Nat.succ_ne_zero i)
      rw [others, List.append_nil]
      exact short.1
    | succ k =>
      have first : f row = [] := empty 0 row rfl (Nat.succ_ne_zero k).symm
      rw [first, List.nil_append]
      exact ih short.2 fun i row at' other => empty (i + 1) row at' fun h => other (Nat.succ.inj h)

namespace Plan

variable {network : Network} {wraps : Option WrapTemplates} {ordered : List OrderedLeg}
  {position : Nat} {current : OrderedLeg}

/-! ## The calls that send native value -/

@[simp] theorem sendsNative_approve (token spender : Bytes) :
    (approve token spender).sendsNative = false := rfl

@[simp] theorem sendsNative_deposit (template : WrapCall) :
    (deposit template).sendsNative = true :=
  (by decide : Flag.sendsNative (9 : UInt16).toNat = true)

@[simp] theorem sendsNative_transfer (token receiver : Bytes) :
    (transfer token receiver).sendsNative = false :=
  (by decide : Flag.sendsNative (11 : UInt16).toNat = false)

@[simp] theorem sendsNative_withdraw (template : WrapCall) :
    (withdraw template).sendsNative = false :=
  (by decide : Flag.sendsNative (7 : UInt16).toNat = false)

@[simp] theorem sendsNative_forwardNative : forwardNative.sendsNative = false := rfl

theorem sendsNative_dex (network : Network) (leg : Leg) (template : CallTemplate) (flag : Flag) :
    (dex network leg template flag).sendsNative = Flag.sendsNative flag.toInt := by
  rw [Call.sendsNative, toNat_flag_dex]

/-- A dex call that sends native value is that of an only leg which sells it, and no deposit is
made for this leg. -/
theorem flags_of_sends {count : Nat} {leg : Leg} {template : CallTemplate}
    (sends : Flag.sendsNative (flags network wraps count leg template).dex.toInt = true) :
    count = 1 ∧ network.isNative leg.srcToken.text = true ∧
      ¬ (template.needsWrap = true ∧ (WrapTemplates.deposit? wraps).isSome = true) := by
  obtain ⟨five, native⟩ | four | eight | zero := flags_cases network wraps count leg template
  · have one : count = 1 := by
      by_contra many
      rw [flags, if_neg many] at five
      cases five
    refine ⟨one, native, ?_⟩
    rintro ⟨needs, given⟩
    rw [flags_of_one network wraps leg template one, Classification.single, needs, native,
      given] at five
    -- with a deposit given, the first branch of the classification is closed
    simp only [Bool.and_self, Bool.not_true, Bool.and_false, Bool.false_eq_true, if_false] at five
    split at five
    · cases five
    · split at five <;> cases five
  · rw [four] at sends
    exact absurd sends (by decide)
  · rw [eight] at sends
    exact absurd sends (by decide)
  · rw [zero] at sends
    exact absurd sends (by decide)

/-- An only leg that sells native value sends it with its dex call, unless a deposit is made. -/
theorem single_of_native {leg : Leg} {template : CallTemplate}
    (native : network.isNative leg.srcToken.text = true)
    (none : ¬ (template.needsWrap = true ∧ (WrapTemplates.deposit? wraps).isSome = true)) :
    (Classification.single network wraps leg template).dex = 5 := by
  rw [← Bool.and_eq_true, Bool.not_eq_true] at none
  simp only [Classification.single, native, Bool.and_true, none, Bool.not_false, Bool.and_self,
    if_true]

/-- Apart from deposits, only the dex call can send native value. -/
theorem filter_sendsNative_ownCalls (network : Network) (wraps : Option WrapTemplates)
    (ordered : List OrderedLeg) (position : Nat) (current : OrderedLeg) :
    (ownCalls network wraps ordered position current).filter (·.sendsNative) =
      if Flag.sendsNative current.flags.dex.toInt then
        [dex network current.leg current.template current.flags.dex]
      else [] := by
  have front : (approvals network current).filter (·.sendsNative) = [] := by
    unfold approvals
    split
    · rfl
    · rfl
  have behind : (if position + 1 = ordered.length then cleanUp network wraps ordered current
      else []).filter (·.sendsNative) = [] := by
    rw [List.filter_eq_nil_iff]
    intro call member
    split at member
    · obtain ⟨-, rfl⟩ | ⟨template, -, rfl⟩ | rfl := mem_cleanUp member
      all_goals simp
    · cases member
  rw [ownCalls, List.filter_append, front, List.nil_append, List.filter_cons, behind,
    sendsNative_dex]

/-- The calls of a leg that send native value. -/
def senders (network : Network) (wraps : Option WrapTemplates) (ordered : List OrderedLeg)
    (position : Nat) (current : OrderedLeg) : List Call :=
  (calls network wraps ordered position current).filter (·.sendsNative)

theorem senders_of_no_deposit
    (none : ¬ (ordered.findIdx? (·.needsWrap) = some position ∧
      (WrapTemplates.deposit? wraps).isSome = true)) :
    senders network wraps ordered position current =
      if Flag.sendsNative current.flags.dex.toInt then
        [dex network current.leg current.template current.flags.dex]
      else [] := by
  rw [senders, calls_of_no_deposit none, filter_sendsNative_ownCalls]

/-! ## Legs in the order of assembly -/

variable {legs : List Leg} {templates : List CallTemplate}

/-- A leg whose dex call sends native value sells it, has no other leg beside it, and makes no
deposit. -/
theorem no_deposit_of_sends
    (at' : (Plan.ordered network wraps legs templates)[position]? = some current)
    (sends : Flag.sendsNative current.flags.dex.toInt = true) :
    legs.length = 1 ∧ network.isNative current.leg.srcToken.text = true ∧
      ¬ ((Plan.ordered network wraps legs templates).findIdx? (·.needsWrap) = some position ∧
        (WrapTemplates.deposit? wraps).isSome = true) := by
  obtain ⟨leg, template, -, rfl⟩ := mem_ordered.mp (List.mem_of_getElem? at')
  obtain ⟨one, native, none⟩ := flags_of_sends sends
  refine ⟨one, native, ?_⟩
  rintro ⟨first, given⟩
  obtain ⟨inside, needs, -⟩ := List.findIdx?_eq_some_iff_getElem.mp first
  obtain ⟨_, same⟩ := List.getElem?_eq_some_iff.mp at'
  rw [same] at needs
  exact none ⟨needs, given⟩

/-- Where a deposit is made, nothing else sends native value. -/
theorem senders_of_deposit
    (at' : (Plan.ordered network wraps legs templates)[position]? = some current)
    {template : WrapCall} (given : WrapTemplates.deposit? wraps = some template)
    (first : (Plan.ordered network wraps legs templates).findIdx? (·.needsWrap) = some position) :
    senders network wraps (Plan.ordered network wraps legs templates) position current =
      [deposit template] := by
  have silent : ¬ Flag.sendsNative current.flags.dex.toInt = true := by
    intro sends
    obtain ⟨-, -, none⟩ := no_deposit_of_sends at' sends
    exact none ⟨first, by rw [given]; rfl⟩
  rw [senders, calls_of_deposit given first, List.filter_cons_of_neg (by simp),
    List.filter_cons_of_pos (by simp), filter_sendsNative_ownCalls, if_neg silent]

/-- The calls of a leg that send native value: its deposit, or its dex call, or none. -/
theorem senders_cases
    (at' : (Plan.ordered network wraps legs templates)[position]? = some current) :
    (∃ template,
      (Plan.ordered network wraps legs templates).findIdx? (·.needsWrap) = some position ∧
      senders network wraps (Plan.ordered network wraps legs templates) position current =
        [deposit template]) ∨
    (legs.length = 1 ∧
      senders network wraps (Plan.ordered network wraps legs templates) position current =
        [dex network current.leg current.template current.flags.dex]) ∨
    senders network wraps (Plan.ordered network wraps legs templates) position current = [] := by
  by_cases deposits : (Plan.ordered network wraps legs templates).findIdx? (·.needsWrap) =
      some position ∧ (WrapTemplates.deposit? wraps).isSome = true
  · left
    obtain ⟨first, given⟩ := deposits
    obtain ⟨template, given⟩ := Option.isSome_iff_exists.mp given
    exact ⟨template, first, senders_of_deposit at' given first⟩
  · right
    rw [senders_of_no_deposit deposits]
    by_cases sends : Flag.sendsNative current.flags.dex.toInt = true
    · obtain ⟨one, -, -⟩ := no_deposit_of_sends at' sends
      exact .inl ⟨one, if_pos sends⟩
    · exact .inr (if_neg sends)

end Plan

namespace Compiler

variable {network : Network} {route : PriceRoute} {templates : List CallTemplate}
  {sender : String} {wraps : Option WrapTemplates} {payload : Bytes}

/-- One call of the planned frames sends native value, or none does. -/
theorem length_senders_le_one (aligned : templates.length = route.legs.length) :
    ((Plan.routeFrames network route templates wraps).flatMap fun frame =>
      frame.calls.filter (·.sendsNative)).length ≤ 1 := by
  have planned {i : Nat} {frame : Payload.LegFrame}
      (inside : (Plan.routeFrames network route templates wraps)[i]? = some frame) :
      ∃ current, (Plan.ordered network wraps route.legs templates)[i]? = some current ∧
        Plan.frame network wraps (Plan.ordered network wraps route.legs templates) i current =
          frame := by
    rw [Plan.getElem?_routeFrames] at inside
    exact Option.map_eq_some_iff.mp inside
  -- the leg that may send native value is the first one that needs wrapping, or the only one
  refine length_flatMap_le_one (k := ((Plan.ordered network wraps route.legs templates).findIdx?
    (·.needsWrap)).getD 0) ?_ ?_
  · intro frame member
    obtain ⟨i, inside⟩ := List.mem_iff_getElem?.mp member
    obtain ⟨current, at', rfl⟩ := planned inside
    obtain ⟨template, -, deposits⟩ | ⟨-, sends⟩ | none := Plan.senders_cases at'
    · exact Nat.le_of_eq (congrArg List.length deposits)
    · exact Nat.le_of_eq (congrArg List.length sends)
    · exact Nat.le_trans (Nat.le_of_eq (congrArg List.length none)) (Nat.zero_le 1)
  · intro i frame inside other
    obtain ⟨current, at', rfl⟩ := planned inside
    obtain ⟨template, first, -⟩ | ⟨one, -⟩ | none := Plan.senders_cases at'
    · rw [first] at other
      exact absurd rfl other
    · have length := Plan.length_ordered network wraps aligned
      obtain ⟨bound, -⟩ := List.getElem?_eq_some_iff.mp at'
      have only : ((Plan.ordered network wraps route.legs templates).findIdx?
          (·.needsWrap)).getD 0 = 0 := by
        cases found : (Plan.ordered network wraps route.legs templates).findIdx? (·.needsWrap) with
        | none => rfl
        | some first =>
          obtain ⟨within, -⟩ := List.findIdx?_eq_some_iff_getElem.mp found
          rw [Option.getD_some]
          omega
      omega
    · exact none

/-- Native value that is sold by an only leg is sent along with the deposit, or, if none is made,
with the dex call. -/
theorem sender_of_only_leg
    (h : (compile network route templates sender wraps).outcome = .ok payload) {leg : Leg}
    (only : route.legs = [leg]) (native : network.isNative leg.srcToken.text = true) :
    ∃ (current : OrderedLeg) (frame : Payload.LegFrame) (made : LegCalls),
      Plan.ordered network wraps route.legs templates = [current] ∧ current.leg = leg ∧
      Plan.routeFrames network route templates wraps = [frame] ∧ frame.calls = made.all ∧
      made.MadeFor network wraps (Plan.ordered network wraps route.legs templates) 0 current ∧
      (made.deposit = [] ∧ frame.calls.filter (·.sendsNative) = [made.dex] ∧ made.dex.flag = 5 ∨
        ∃ approve wrap call, made.deposit = [approve, wrap] ∧
          WrapTemplates.deposit? wraps = some call ∧ Call.wrap call 9 = .ok wrap ∧
          frame.calls.filter (·.sendsNative) = [wrap] ∧ wrap.flag = 9) := by
  obtain ⟨admits, fits, -⟩ := compile_sound h
  obtain ⟨template, rfl⟩ := List.length_eq_one_iff.mp (admits.aligned.trans (by rw [only]; rfl))
  have ordered := Plan.ordered_singleton network wraps leg template
  rw [← only] at ordered
  have at' : (Plan.ordered network wraps route.legs [template])[0]? =
      some ⟨leg, template, Classification.single network wraps leg template⟩ := by
    rw [ordered]
    rfl
  obtain ⟨made, frame, steps, inside, all⟩ := exists_legCalls h at'
  obtain ⟨deposit, -, dex, planned⟩ :=
    steps.planned (Plan.assigned_ordered (List.mem_of_getElem? at'))
  have frames : Plan.routeFrames network route [template] wraps = [frame] := by
    rw [Plan.routeFrames, Plan.frames, ordered, List.mapIdx_singleton] at inside ⊢
    rw [← Option.some.inj inside]
  refine ⟨_, frame, made, ordered, rfl, frames, all, steps, ?_⟩
  rw [all, planned]
  have first : (Plan.ordered network wraps route.legs [template]).findIdx? (·.needsWrap) = some 0 ↔
      template.needsWrap = true := by
    rw [ordered]
    cases needs : template.needsWrap <;> simp [OrderedLeg.needsWrap, needs]
  by_cases deposits : template.needsWrap = true ∧ (WrapTemplates.deposit? wraps).isSome = true
  · right
    obtain ⟨needs, given⟩ := deposits
    obtain ⟨call, given⟩ := Option.isSome_iff_exists.mp given
    rw [Plan.deposits_of_given given (first.mpr needs)] at deposit
    have wrap : Call.wrap call 9 = .ok (Plan.deposit call) := by
      refine (Call.wrap_follows call).complete trivial ((fits.legs 0 _ at').frame.calls _ ?_)
      rw [Plan.frame, Plan.calls_of_deposit given (first.mpr needs)]
      exact List.mem_cons_of_mem _ List.mem_cons_self
    exact ⟨_, _, call, deposit, given, wrap, Plan.senders_of_deposit at' given (first.mpr needs),
      rfl⟩
  · left
    have five := Plan.single_of_native native deposits
    rw [← first] at deposits
    rw [Plan.deposits_eq_nil deposits] at deposit
    have sends := @Plan.senders_of_no_deposit network wraps _ _
      ⟨leg, template, Classification.single network wraps leg template⟩ deposits
    rw [five] at sends
    rw [dex, five]
    exact ⟨deposit, sends, rfl⟩

/-- A dex call sends native value only if its leg sells it, and then stands behind neither a
deposit nor an approval. -/
theorem alone_of_sends {legs : List Leg} {position : Nat} {current : OrderedLeg}
    {made : LegCalls}
    (at' : (Plan.ordered network wraps legs templates)[position]? = some current)
    (steps : made.MadeFor network wraps (Plan.ordered network wraps legs templates) position
      current) (sends : made.dex.sendsNative = true) :
    network.isNative current.leg.srcToken.text = true ∧ made.deposit = [] ∧
      made.approval = [] := by
  obtain ⟨deposit, approval, dex, -⟩ :=
    steps.planned (Plan.assigned_ordered (List.mem_of_getElem? at'))
  rw [dex, Plan.sendsNative_dex] at sends
  obtain ⟨-, native, none⟩ := Plan.no_deposit_of_sends at' sends
  refine ⟨native, deposit.trans (Plan.deposits_eq_nil none), approval.trans ?_⟩
  rw [Plan.approvals, if_pos native]

/-- At most one call of a payload sends native value. For an only leg that sells it exactly one
does: the deposit, with flag 9, or, if none is made, the dex call, with flag 5. And the dex call
of any leg sends native value only if the leg sells it and its frame has neither a deposit nor an
approval. -/
theorem native_value_sent_once
    (h : (compile network route templates sender wraps).outcome = .ok payload) :
    ∃ flags ordered contents,
      Classification.flags network wraps route.legs templates = .ok flags ∧
      OrderedLeg.order route.legs templates flags = .ok ordered ∧
      Payload.read? payload = some contents ∧
      contents.senders.length ≤ 1 ∧
      (∀ leg, route.legs = [leg] → network.isNative leg.srcToken.text = true →
        ∃ (current : OrderedLeg) (frame : Payload.LegFrame) (made : LegCalls),
          ordered = [current] ∧ current.leg = leg ∧
          contents.frames = [frame] ∧ frame.calls = made.all ∧
          made.MadeFor network wraps ordered 0 current ∧
          (made.deposit = [] ∧ contents.senders = [made.dex] ∧ made.dex.flag = 5 ∨
            ∃ approve wrap call, made.deposit = [approve, wrap] ∧
              WrapTemplates.deposit? wraps = some call ∧ Call.wrap call 9 = .ok wrap ∧
              contents.senders = [wrap] ∧ wrap.flag = 9)) ∧
      contents.frames.length = ordered.length ∧
      ∀ position current, ordered[position]? = some current →
        ∃ (made : LegCalls) (frame : Payload.LegFrame),
          made.MadeFor network wraps ordered position current ∧
          contents.frames[position]? = some frame ∧ frame.calls = made.all ∧
          (made.dex.sendsNative = true →
            network.isNative current.leg.srcToken.text = true ∧
              made.deposit = [] ∧ made.approval = []) := by
  have read := read?_of_compile h
  obtain ⟨admits, -, -⟩ := compile_sound h
  obtain ⟨flags, classified, arranged⟩ := order_of_admits admits
  refine ⟨flags, _, _, classified, arranged, read, length_senders_le_one admits.aligned, ?_, ?_, ?_⟩
  · intro leg only native
    obtain ⟨current, frame, made, ordered, its, frames, all, steps, sends⟩ :=
      sender_of_only_leg h only native
    have senders : Payload.Contents.senders ⟨Payload.dataOffset,
          (Plan.body network route templates wraps).length + Payload.callerBytes,
          Plan.routeFrames network route templates wraps⟩ =
        frame.calls.filter (·.sendsNative) := by
      rw [Payload.Contents.senders, frames, List.flatMap_singleton]
    rw [senders]
    exact ⟨current, frame, made, ordered, its, frames, all, steps, sends⟩
  · exact List.length_mapIdx
  · intro position current at'
    obtain ⟨made, frame, steps, inside, all⟩ := exists_legCalls h at'
    exact ⟨made, frame, steps, inside, all, alone_of_sends at' steps⟩

theorem native_value_sent_once_with_deposit :
    (∃ payload contents wrap,
      (compile Sample.network (Sample.route Sample.legs) Sample.templates "" Sample.wraps).outcome =
        .ok payload ∧
      Payload.read? payload = some contents ∧ Call.wrap Sample.deposit 9 = .ok wrap ∧
      contents.senders = [wrap] ∧ wrap.flag = 9) ∧
    ∃ payload contents dex,
      (compile Sample.network (Sample.route Sample.legs) [Sample.template true false] ""
        none).outcome = .ok payload ∧
      Payload.read? payload = some contents ∧
      contents.senders = [dex] ∧ dex.flag = 5 := by
  constructor
  · have nine : ((compile Sample.network (Sample.route Sample.legs) Sample.templates ""
        Sample.wraps).outcome.toOption.bind Payload.read?).any
        (fun contents => contents.senders.map (·.flag) == [9]) = true := by
      decide +kernel
    obtain ⟨payload, contents, made, read, nine⟩ := exists_contents nine
    obtain ⟨flags, ordered, _, -, -, read', -, only, -⟩ := native_value_sent_once made
    cases read.symm.trans read'
    obtain ⟨current, frame, calls, -, -, -, -, -, sends⟩ :=
      only (Sample.leg Sample.native Sample.token 100) rfl Sample.isNative_native
    rcases sends with ⟨-, sends, five⟩ | ⟨approve, wrap, deposit, -, given, wrapped, sends, flag⟩
    · rw [sends, List.map_singleton, five] at nine
      exact absurd nine (by decide)
    · cases given
      exact ⟨payload, contents, wrap, made, read, wrapped, sends, flag⟩
  · have made : (compile Sample.network (Sample.route Sample.legs) [Sample.template true false] ""
        none).outcome.isOk = true := by
      decide +kernel
    obtain ⟨payload, made⟩ := Outcome.exists_of_isOk made
    obtain ⟨flags, ordered, contents, -, -, read, -, only, -⟩ := native_value_sent_once made
    obtain ⟨current, frame, calls, -, -, -, -, -, sends⟩ :=
      only (Sample.leg Sample.native Sample.token 100) rfl Sample.isNative_native
    rcases sends with ⟨-, sends, five⟩ | ⟨_, _, _, -, given, -⟩
    · exact ⟨payload, contents, calls.dex, made, read, sends, five⟩
    · -- there is no deposit to be made
      cases given

end Compiler

end SwapCompiler
