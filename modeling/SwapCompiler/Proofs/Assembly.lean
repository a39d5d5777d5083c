import SwapCompiler.Proofs.Call
import SwapCompiler.Proofs.Patch
import SwapCompiler.Proofs.Payload.Frames

/-!
# The assembly of legs follows the plan

What is made for a leg is what `Plan` says, and it is made exactly when `Plan.LegFits`
holds. Each maker of calls is compared with its part of the plan; the makers of a leg, of
its frame and of all frames are compared by joining those of their parts. Legs carry the
flags that the classification gives them (`OrderedLeg.Assigned`): no approval is flagged,
no dex call has an amount inserted, and only sellers of native value send it.
-/

namespace SwapCompiler

/-- Both amounts of the leg can be read. -/
def Leg.AmountsRead (leg : Leg) : Prop :=
  (∃ value, Amount.value leg.srcAmount = .ok value) ∧
    ∃ value, Amount.value leg.destAmount = .ok value

/-- The leg carries flags that the classification can give it. -/
structure OrderedLeg.Assigned (network : Network) (current : OrderedLeg) : Prop where
  approve : current.flags.approve = 0
  plain : Flag.insertsAmount current.flags.dex.toInt = false
  native : current.flags.dex.toInt % 4 = 1 → network.isNative current.leg.srcToken.text = true

/-- Texts and tokens of a leg are in order, so that only the widths of headers matter. -/
structure Plan.LegRegular (network : Network) (current : OrderedLeg) : Prop where
  strict : network.Strict
  amounts : current.leg.AmountsRead
  share : current.leg.ShareRead
  balanceFound : BalanceFound network current.leg current.template current.flags.dex

/-- When the dex call of a leg can be made. -/
structure Plan.DexFits (network : Network) (leg : Leg) (template : CallTemplate) (flag : Flag) :
    Prop where
  amounts : leg.AmountsRead
  balanceFound : BalanceFound network leg template flag
  balancePos : balancePos network leg template flag < Bytes.capacity 2
  call : (dex network leg template flag).Fits

/-- The receiver has twenty bytes if something is transferred to it. -/
def Plan.ReceiverRead (network : Network) (ordered : List OrderedLeg) (last : OrderedLeg) : Prop :=
  transfers network ordered last ≠ [] → (Address.bytesOf network.receiver).length = 20

/-- When the frame of the leg at a position can be made. -/
structure Plan.LegFits (network : Network) (wraps : Option WrapTemplates)
    (ordered : List OrderedLeg) (position : Nat) (current : OrderedLeg) : Prop where
  dex : DexFits network current.leg current.template current.flags.dex
  receiver : position + 1 = ordered.length → ReceiverRead network ordered current
  share : current.leg.ShareRead
  frame : (Plan.frame network wraps ordered position current).Fits

namespace Assembly

variable {network : Network} {wraps : Option WrapTemplates} {ordered : List OrderedLeg}
  {current : OrderedLeg} {position : Nat}

/-! ## The dex call -/

theorem make_dex_follows (network : Network) (leg : Leg) (template : CallTemplate) (flag : Flag) :
    Follows True
      (Call.make template.target.text (Plan.dexData leg template) (0 : Nat)
        (Plan.balancePos network leg template flag) template.specialDex.toNat flag.toInt (0 : Nat))
      (Plan.balancePos network leg template flag < Bytes.capacity 2 ∧
        (Plan.dex network leg template flag).Fits)
      (Plan.dex network leg template flag) where
  sound call h := by
    obtain ⟨⟨length, size, -, balance, -⟩, rfl⟩ := Call.make_eq_ok.mp h
    refine ⟨⟨balance.2, length, size⟩, ?_⟩
    simp [Plan.dex, Address.bytes, Flag.toInt]
  complete _ := by
    rintro ⟨balance, fits⟩
    -- of the positions only that of the balance check can be too large
    have flagFits : flag.val < Bytes.capacity 2 := Nat.lt_trans flag.isLt (by decide)
    refine Call.make_eq_ok.mpr ⟨⟨fits.target, fits.data, ⟨by omega, by decide⟩,
      ⟨by omega, balance⟩, ⟨by omega, by decide⟩, ⟨by omega, Call.toNat_lt_capacity_one _⟩,
      Int.natCast_nonneg _, flagFits⟩, ?_⟩
    simp [Plan.dex, Address.bytes, Flag.toInt]
  overflows _ := Call.make_onlyOverflows template.target.length_bytes _ _ _ _ _ _

theorem dexCall_follows (network : Network) (leg : Leg) (template : CallTemplate) {flag : Flag}
    (plain : Flag.insertsAmount flag.toInt = false) :
    Follows (leg.AmountsRead ∧ Plan.BalanceFound network leg template flag)
      (dexCall network leg template flag)
      (Plan.DexFits network leg template flag) (Plan.dex network leg template flag) := by
  simp only [dexCall, HexData.bytes_eq, Patch.embedToken_eq, Outcome.ok_bind]
  refine Follows.congr ?_ ?_ (Follows.mono ?_ (Follows.skip _ fun srcAmount =>
    Follows.skip _ fun destAmount =>
      Follows.bind (Patch.resolve_follows network leg template plain srcAmount destAmount)
        fun _ => (make_dex_follows network leg template flag).mono fun _ => trivial))
  · rintro ⟨src, dest, found, balance, fits⟩
    exact ⟨⟨src, dest⟩, found, balance, fits⟩
  · rintro - ⟨⟨src, dest⟩, found, balance, fits⟩
    exact ⟨src, dest, found, balance, fits⟩
  · rintro ⟨⟨src, dest⟩, found⟩
    exact ⟨src, dest, found⟩

/-! ## The calls around the dex call -/

/-- All calls fit their headers. -/
def AllFit (calls : List Call) : Prop := ∀ call ∈ calls, call.Fits

theorem allFit_nil : AllFit [] := fun _ h => nomatch h

theorem allFit_append {front back : List Call} :
    AllFit (front ++ back) ↔ AllFit front ∧ AllFit back :=
  List.forall_mem_append

theorem allFit_cons {call : Call} {rest : List Call} :
    AllFit (call :: rest) ↔ call.Fits ∧ AllFit rest :=
  List.forall_mem_cons

theorem nil_follows {regular : Prop} : Follows regular (.ok ([] : List Call)) (AllFit []) [] :=
  (Follows.ok []).congr (fun _ => allFit_nil) fun _ _ => trivial

theorem single_follows {regular : Prop} {step : Except Fault Call} {planned : Call}
    (h : Follows regular step planned.Fits planned) :
    Follows regular (step.map ([·])) (AllFit [planned]) [planned] :=
  (h.map ([·])).congr (fun fits => allFit_cons.mpr ⟨fits, allFit_nil⟩)
    fun _ fits => (allFit_cons.mp fits).1

theorem approval_follows (assigned : current.Assigned network) :
    Follows True (approval network current) (AllFit (Plan.approvals network current))
      (Plan.approvals network current) := by
  unfold approval Plan.approvals
  by_cases native : network.isNative current.leg.srcToken.text = true
  · simp only [native, Bool.not_true, Bool.false_eq_true, and_false, if_false, if_true]
    exact nil_follows
  · have sends : current.flags.dex.toInt % 4 ≠ 1 := fun h => native (assigned.native h)
    simp only [Bool.not_eq_true] at native
    simp only [native, sends, assigned.approve, ne_eq, not_false_eq_true, Bool.not_false, and_self,
      if_true, Bool.false_eq_true, if_false]
    exact single_follows ((Call.approve_follows _ _).mono fun _ =>
      current.leg.srcToken.length_bytes)

theorem deposit_follows (wraps : Option WrapTemplates) (ordered : List OrderedLeg)
    (position : Nat) (assigned : current.Assigned network) :
    Follows ((Address.bytesOf network.wrappedNative).length = 20)
      (deposit network wraps ordered position current)
      (AllFit (Plan.deposits network wraps ordered position current))
      (Plan.deposits network wraps ordered position current) := by
  unfold deposit Plan.deposits
  cases WrapTemplates.deposit? wraps with
  | none => exact nil_follows
  | some template =>
    cases found : ordered.findIdx? (·.needsWrap) with
    | none =>
      simp only [reduceCtorEq, if_false]
      exact nil_follows
    | some first =>
      -- the index is compared as a number by the step and as an option by the plan
      simp only [Int.natCast_inj, Option.some.injEq]
      by_cases here : first = position
      · rw [if_pos here, if_pos here, assigned.approve]
        refine Follows.congr ?_ ?_ (Follows.bind (Call.approve_follows _ _) fun _ =>
          Follows.bind_pure _ ((Call.wrap_follows template).mono fun _ => trivial))
        · rintro ⟨approve, wrap⟩
          exact allFit_cons.mpr ⟨approve, allFit_cons.mpr ⟨wrap, allFit_nil⟩⟩
        · intro _ fits
          obtain ⟨approve, fits⟩ := allFit_cons.mp fits
          exact ⟨approve, (allFit_cons.mp fits).1⟩
      · rw [if_neg here, if_neg here]
        exact nil_follows

/-! ## Cleaning up -/

/-- Transfers leftover output, if any. -/
def transferStep (network : Network) (ordered : List OrderedLeg) (last : OrderedLeg) :
    Except Fault (List Call) :=
  if ordered.any (!·.template.hasRecipient) && !network.isNative last.leg.destToken.text then
    (Call.transfer network.receiver last.leg.destToken.text).map ([·])
  else .ok []

/-- Withdraws native output, if it can. -/
def withdrawStep (network : Network) (wraps : Option WrapTemplates) (last : OrderedLeg) :
    Except Fault (List Call) :=
  match network.isNative last.leg.destToken.text, WrapTemplates.withdraw? wraps with
  | true, some withdraw => (Call.unwrap withdraw).map ([·])
  | _, _ => .ok []

/-- Forwards native output, if the last exchange or the withdrawal left some. -/
def forwardStep (network : Network) (last : OrderedLeg) (unwrap : List Call) :
    Except Fault (List Call) :=
  if network.isNative last.leg.destToken.text &&
      (!last.template.hasRecipient || !unwrap.isEmpty) then
    Call.forwardNative.map ([·])
  else .ok []

/-- Cleaning up is three steps one after another. -/
theorem cleanUp_eq (network : Network) (wraps : Option WrapTemplates) (ordered : List OrderedLeg)
    (last : OrderedLeg) :
    cleanUp network wraps ordered last =
      transferStep network ordered last >>= fun transfer =>
        withdrawStep network wraps last >>= fun unwrap =>
          forwardStep network last unwrap >>= fun forward =>
            pure (transfer ++ unwrap ++ forward) := by
  unfold cleanUp transferStep withdrawStep forwardStep
  dsimp only
  cases network.isNative last.leg.destToken.text <;> cases WrapTemplates.withdraw? wraps <;>
    simp only [Outcome.ite_bind] <;> rfl

theorem transferStep_follows (network : Network) (ordered : List OrderedLeg) (last : OrderedLeg) :
    Follows ((Address.bytesOf network.receiver).length = 20) (transferStep network ordered last)
      (AllFit (Plan.transfers network ordered last) ∧ Plan.ReceiverRead network ordered last)
      (Plan.transfers network ordered last) := by
  unfold transferStep Plan.ReceiverRead Plan.transfers
  by_cases left : (ordered.any (!·.template.hasRecipient) &&
      !network.isNative last.leg.destToken.text) = true
  · rw [if_pos left, if_pos left]
    have transfer := (Call.transfer_follows network.receiver last.leg.destToken.text).map ([·])
    refine (transfer.mono fun regular => ⟨regular, last.leg.destToken.length_bytes⟩).congr ?_ ?_
    · rintro ⟨length, fits⟩
      exact ⟨allFit_cons.mpr ⟨fits, allFit_nil⟩, fun _ => length⟩
    · rintro length ⟨fits, -⟩
      exact ⟨length, (allFit_cons.mp fits).1⟩
  · rw [if_neg left, if_neg left]
    exact nil_follows.congr (fun fits => ⟨fits, fun h => absurd rfl h⟩) fun _ fits => fits.1

theorem withdrawStep_follows {regular : Prop} (network : Network) (wraps : Option WrapTemplates)
    (last : OrderedLeg) :
    Follows regular (withdrawStep network wraps last)
      (AllFit (Plan.withdrawals network wraps last)) (Plan.withdrawals network wraps last) := by
  unfold withdrawStep Plan.withdrawals
  cases network.isNative last.leg.destToken.text with
  | false => exact nil_follows
  | true =>
    cases WrapTemplates.withdraw? wraps with
    | none => exact nil_follows
    | some template => exact single_follows ((Call.unwrap_follows template).mono fun _ => trivial)

theorem forwardStep_follows {regular : Prop} (network : Network) (wraps : Option WrapTemplates)
    (last : OrderedLeg) :
    Follows regular (forwardStep network last (Plan.withdrawals network wraps last))
      (AllFit (Plan.forwards network wraps last)) (Plan.forwards network wraps last) := by
  have forward : Follows regular Call.forwardNative Plan.forwardNative.Fits
      Plan.forwardNative := by
    rw [Call.forwardNative_eq]
    exact (Follows.ok _).congr (fun _ => ⟨by decide, by decide⟩) fun _ _ => trivial
  have withdrawn : (network.isNative last.leg.destToken.text &&
        (!last.template.hasRecipient || !(Plan.withdrawals network wraps last).isEmpty)) =
      (network.isNative last.leg.destToken.text &&
        (!last.template.hasRecipient || (WrapTemplates.withdraw? wraps).isSome)) := by
    unfold Plan.withdrawals
    cases network.isNative last.leg.destToken.text <;>
      cases WrapTemplates.withdraw? wraps <;> rfl
  unfold forwardStep Plan.forwards
  rw [withdrawn]
  by_cases left : (network.isNative last.leg.destToken.text &&
      (!last.template.hasRecipient || (WrapTemplates.withdraw? wraps).isSome)) = true
  · rw [if_pos left, if_pos left]
    exact single_follows forward
  · rw [if_neg left, if_neg left]
    exact nil_follows

theorem cleanUp_follows (network : Network) (wraps : Option WrapTemplates)
    (ordered : List OrderedLeg) (last : OrderedLeg) :
    Follows ((Address.bytesOf network.receiver).length = 20)
      (cleanUp network wraps ordered last)
      (AllFit (Plan.cleanUp network wraps ordered last) ∧ Plan.ReceiverRead network ordered last)
      (Plan.cleanUp network wraps ordered last) := by
  rw [cleanUp_eq]
  refine Follows.congr ?_ ?_ (Follows.bind (transferStep_follows network ordered last) fun _ =>
    Follows.bind (withdrawStep_follows network wraps last) fun _ =>
      Follows.bind_pure _ (forwardStep_follows network wraps last))
  · rintro ⟨⟨transfer, receiver⟩, withdraw, forward⟩
    exact ⟨allFit_append.mpr ⟨allFit_append.mpr ⟨transfer, withdraw⟩, forward⟩, receiver⟩
  · rintro - ⟨fits, receiver⟩
    obtain ⟨front, forward⟩ := allFit_append.mp fits
    obtain ⟨transfer, withdraw⟩ := allFit_append.mp front
    exact ⟨⟨transfer, receiver⟩, withdraw, forward⟩

/-! ## All calls of a leg -/

theorem calls_follows (assigned : current.Assigned network) :
    Follows (Plan.LegRegular network current) (calls network wraps ordered position current)
      (Plan.DexFits network current.leg current.template current.flags.dex ∧
        (position + 1 = ordered.length → Plan.ReceiverRead network ordered current) ∧
          AllFit (Plan.calls network wraps ordered position current))
      (Plan.calls network wraps ordered position current) := by
  have last : (position : Int) = (ordered.length : Int) - 1 ↔ position + 1 = ordered.length := by
    omega
  have cleanUp : Follows (Plan.LegRegular network current)
      (if position + 1 = ordered.length then cleanUp network wraps ordered current else pure [])
      (AllFit (if position + 1 = ordered.length then
          Plan.cleanUp network wraps ordered current else []) ∧
        (position + 1 = ordered.length → Plan.ReceiverRead network ordered current))
      (if position + 1 = ordered.length then Plan.cleanUp network wraps ordered current
        else []) := by
    by_cases here : position + 1 = ordered.length
    · rw [if_pos here, if_pos here, forall_prop_of_true here]
      exact (cleanUp_follows network wraps ordered current).mono fun regular =>
        Address.length_bytesOf regular.strict.receiver
    · rw [if_neg here, if_neg here]
      exact nil_follows.congr (fun fits => ⟨fits, fun h => absurd h here⟩) fun _ fits => fits.1
  have dex := (dexCall_follows network current.leg current.template assigned.plain).mono
    fun regular : Plan.LegRegular network current => ⟨regular.amounts, regular.balanceFound⟩
  have deposit := (deposit_follows wraps ordered position assigned).mono
    fun regular : Plan.LegRegular network current =>
      Address.length_bytesOf regular.strict.wrappedNative
  simp only [calls, last, Outcome.ite_bind]
  refine Follows.congr ?_ ?_ (Follows.bind dex fun _ =>
    Follows.bind ((approval_follows assigned).mono fun _ => trivial) fun _ =>
      Follows.bind deposit fun _ => Follows.bind_pure _ cleanUp)
  · rintro ⟨dex, approval, deposit, cleanUp, receiver⟩
    exact ⟨dex, receiver, allFit_append.mpr
      ⟨allFit_append.mpr ⟨deposit, approval⟩, allFit_cons.mpr ⟨dex.call, cleanUp⟩⟩⟩
  · rintro - ⟨dex, receiver, fits⟩
    obtain ⟨front, back⟩ := allFit_append.mp fits
    obtain ⟨deposit, approval⟩ := allFit_append.mp front
    exact ⟨dex, approval, deposit, (allFit_cons.mp back).2, receiver⟩

/-! ## The frame of a leg -/

theorem legAt_natCast (at' : ordered[position]? = some current) :
    legAt ordered position = .ok current := by
  have forward : ¬ (position : Int) < 0 := by omega
  simp only [legAt, if_neg forward, Int.toNat_natCast, at']

/-- The data of the dex call is a part of what is framed. -/
theorem dexData_infix (network : Network) (wraps : Option WrapTemplates)
    (ordered : List OrderedLeg) (position : Nat) (current : OrderedLeg) :
    Plan.dexData current.leg current.template <:+:
      Call.encodeAll (Plan.calls network wraps ordered position current) := by
  have member : Plan.dex network current.leg current.template current.flags.dex ∈
      Plan.calls network wraps ordered position current := by
    simp [Plan.calls]
  exact Call.data_infix_encodeAll member

/-- A token of the leg is found where the plan says. -/
theorem firstIndex?_offsetOf {pattern data part : Bytes} (inside : part <:+: data)
    (h : part.contains pattern = true) :
    Bytes.firstIndex? pattern data = some (Plan.offsetOf pattern data) := by
  have found := Bytes.contains_of_infix inside h
  rw [Bytes.contains, Option.isSome_iff_exists] at found
  obtain ⟨index, found⟩ := found
  rw [Plan.offsetOf, found]
  rfl

theorem legFrame_follows (wraps : Option WrapTemplates) (at' : ordered[position]? = some current)
    (assigned : current.Assigned network) :
    Follows (Plan.LegRegular network current)
      (legFrame network wraps ordered position).outcome
      (Plan.LegFits network wraps ordered position current)
      (Plan.frame network wraps ordered position current).encode := by
  have inside := dexData_infix network wraps ordered position current
  -- both tokens are embedded in the data of the dex call, so neither search fails
  have destToken := firstIndex?_offsetOf inside
    (Plan.dexData_contains_destToken current.leg current.template)
  have srcToken := firstIndex?_offsetOf inside
    (Plan.dexData_contains_srcToken current.leg current.template)
  simp only [legFrame, Traced.outcome_bind, Traced.outcome_monadLift, Traced.outcome_report,
    Traced.outcome_pure, legAt_natCast at', Outcome.ok_bind]
  refine Follows.congr ?_ ?_ (Follows.bind (calls_follows assigned) fun fits =>
    Follows.bind_pure id ((Payload.legFrame_follows
      (Plan.frame network wraps ordered position current) fits.2.2 rfl destToken srcToken rfl).mono
        fun regular => regular.share))
  · rintro ⟨⟨dex, receiver, -⟩, share, frame⟩
    exact ⟨dex, receiver, share, frame⟩
  · rintro - ⟨dex, receiver, share, frame⟩
    exact ⟨⟨dex, receiver, frame.calls⟩, share, frame⟩

/-! ## All frames -/

/-- The frames at some positions, by induction on these. -/
theorem legFrames_follows_of (wraps : Option WrapTemplates) {places : List (OrderedLeg × Nat)}
    (at' : ∀ place ∈ places, ordered[place.2]? = some place.1)
    (assigned : ∀ place ∈ places, place.1.Assigned network) :
    Follows (∀ place ∈ places, Plan.LegRegular network place.1)
      (legFrames network wraps ordered (places.map (·.2))).outcome
      (∀ place ∈ places, Plan.LegFits network wraps ordered place.2 place.1)
      (places.map fun place => (Plan.frame network wraps ordered place.2 place.1).encode) := by
  induction places with
  | nil => exact (Follows.ok []).congr (fun _ _ h => nomatch h) fun _ _ => trivial
  | cons place rest ih =>
    rw [List.forall_mem_cons] at at' assigned
    have first := legFrame_follows wraps at'.1 assigned.1
    have others := ih at'.2 assigned.2
    simp only [List.map_cons, legFrames, Traced.outcome_bind, Traced.outcome_pure,
      List.forall_mem_cons]
    exact Follows.bind (first.mono fun regular => regular.1) fun _ =>
      Follows.bind_pure _ (others.mono fun regular => regular.2)

/-- The frames of all legs. -/
theorem legFrames_follows (network : Network) (wraps : Option WrapTemplates)
    {ordered : List OrderedLeg} (assigned : ∀ current ∈ ordered, current.Assigned network) :
    Follows (∀ current ∈ ordered, Plan.LegRegular network current)
      (legFrames network wraps ordered (List.range ordered.length)).outcome
      (∀ position current, ordered[position]? = some current →
        Plan.LegFits network wraps ordered position current)
      ((Plan.frames network wraps ordered).map Payload.LegFrame.encode) := by
  -- legs are paired with their positions, and the induction is on the pairs
  have member {place : OrderedLeg × Nat} :
      place ∈ ordered.zipIdx ↔ ordered[place.2]? = some place.1 :=
    List.mem_zipIdx_iff_getElem?
  have all := legFrames_follows_of wraps (fun place h => member.mp h)
    fun place h => assigned _ (List.mem_of_getElem? (member.mp h))
  have positions : ordered.zipIdx.map (·.2) = List.range ordered.length := by
    rw [List.range_eq_range']
    exact List.zipIdx_map_snd 0 ordered
  have planned : (Plan.frames network wraps ordered).map Payload.LegFrame.encode =
      ordered.zipIdx.map fun place =>
        (Plan.frame network wraps ordered place.2 place.1).encode := by
    rw [Plan.frames, List.mapIdx_eq_zipIdx_map, List.map_map]
    rfl
  rw [← positions, planned]
  refine (all.mono ?_).congr ?_ ?_
  · intro regular place h
    exact regular _ (List.mem_of_getElem? (member.mp h))
  · intro fits position current h
    exact fits (current, position) (member.mpr h)
  · intro _ fits place h
    exact fits _ _ (member.mp h)

end Assembly

end SwapCompiler
