import SwapCompiler.Proofs.Assembly

/-!
# What the assembly reads of legs

Of a leg only the tokens and the share are read, and whether its amounts can be read at all:
no flag that the classification gives has an amount inserted. Of a token the letter case is not
read, of call data only the bytes. The deposit is read where some leg needs wrapping, and the
withdrawal where the last leg buys native value.

Each step is compared with itself on two inputs of which the same is read. Rows of legs are
compared through `OrderedLeg.reading`, and the frames of all legs by induction on their positions
(`Assembly.legFrames_congr`).
-/

namespace SwapCompiler

/-! ## Readings -/

/-- Whether an amount can be read, and the fault if it cannot. -/
def Amount.reading (text : String) : Except Fault Unit := (value text).map fun _ => ()

/-- What is read of a leg: its tokens without their letter case, its share, and whether its
amounts can be read. -/
structure Leg.Reading where
  srcToken : String
  destToken : String
  percent : Float
  srcAmount : Except Fault Unit
  destAmount : Except Fault Unit

def Leg.reading (leg : Leg) : Leg.Reading where
  srcToken := Address.normalize leg.srcToken.text
  destToken := Address.normalize leg.destToken.text
  percent := leg.percent
  srcAmount := Amount.reading leg.srcAmount
  destAmount := Amount.reading leg.destAmount

/-- What is read of a call template: bytes in place of texts. -/
structure CallTemplate.Reading where
  target : Bytes
  data : Bytes
  hasRecipient : Bool
  needsWrap : Bool
  specialDex : UInt8

def CallTemplate.reading (template : CallTemplate) : CallTemplate.Reading where
  target := template.target.bytes
  data := template.data.content
  hasRecipient := template.hasRecipient
  needsWrap := template.needsWrap
  specialDex := template.specialDex

/-- The bytes of the target and of the call data. -/
def WrapCall.reading (call : WrapCall) : Bytes × Bytes := (call.callee.bytes, call.data.content)

/-- Two optional calls of which the same is read are both missing or both given. -/
theorem WrapCall.cases_of_map_reading {call? call?' : Option WrapCall}
    (same : call?.map reading = call?'.map reading) :
    call? = none ∧ call?' = none ∨
      ∃ call call', call? = some call ∧ call?' = some call' ∧ call.reading = call'.reading := by
  cases call? with
  | none => exact .inl ⟨rfl, Option.map_eq_none_iff.mp same.symm⟩
  | some call =>
    obtain ⟨call', given, equal⟩ := Option.map_eq_some_iff.mp same.symm
    exact .inr ⟨call, call', rfl, given, equal.symm⟩

structure OrderedLeg.Reading where
  leg : Leg.Reading
  template : CallTemplate.Reading
  flags : LegFlags

def OrderedLeg.reading (current : OrderedLeg) : OrderedLeg.Reading where
  leg := current.leg.reading
  template := current.template.reading
  flags := current.flags

namespace Leg

variable {leg leg' : Leg}

theorem srcToken_congr (same : leg.reading = leg'.reading) :
    Address.normalize leg.srcToken.text = Address.normalize leg'.srcToken.text :=
  congrArg Reading.srcToken same

theorem destToken_congr (same : leg.reading = leg'.reading) :
    Address.normalize leg.destToken.text = Address.normalize leg'.destToken.text :=
  congrArg Reading.destToken same

end Leg

namespace CallTemplate

variable {template template' : CallTemplate}

theorem target_congr (same : template.reading = template'.reading) :
    Address.decode template.target.text = Address.decode template'.target.text := by
  rw [Address.decode_text, Address.decode_text]
  exact congrArg (fun read => Except.ok read.target) same

theorem data_congr (same : template.reading = template'.reading) :
    template.data.content = template'.data.content :=
  congrArg Reading.data same

theorem hasRecipient_congr (same : template.reading = template'.reading) :
    template.hasRecipient = template'.hasRecipient :=
  congrArg Reading.hasRecipient same

theorem needsWrap_congr (same : template.reading = template'.reading) :
    template.needsWrap = template'.needsWrap :=
  congrArg Reading.needsWrap same

theorem specialDex_congr (same : template.reading = template'.reading) :
    template.specialDex = template'.specialDex :=
  congrArg Reading.specialDex same

end CallTemplate

namespace OrderedLeg

variable {current current' : OrderedLeg} {ordered ordered' : List OrderedLeg}

theorem leg_congr (same : current.reading = current'.reading) :
    current.leg.reading = current'.leg.reading :=
  congrArg Reading.leg same

theorem template_congr (same : current.reading = current'.reading) :
    current.template.reading = current'.template.reading :=
  congrArg Reading.template same

theorem flags_congr (same : current.reading = current'.reading) :
    current.flags = current'.flags :=
  congrArg Reading.flags same

theorem findIdx?_needsWrap_congr (same : ordered.map reading = ordered'.map reading) :
    ordered.findIdx? (·.needsWrap) = ordered'.findIdx? (·.needsWrap) := by
  have read := congrArg (List.findIdx? (·.template.needsWrap)) same
  rwa [List.findIdx?_map, List.findIdx?_map] at read

theorem any_congr (p : CallTemplate.Reading → Bool)
    (same : ordered.map reading = ordered'.map reading) :
    ordered.any (fun current => p current.template.reading) =
      ordered'.any fun current => p current.template.reading := by
  have read := congrArg (List.any · (fun current => p current.template)) same
  rwa [List.any_map, List.any_map] at read

theorem length_congr (same : ordered.map reading = ordered'.map reading) :
    ordered.length = ordered'.length := by
  rw [← List.length_map reading, same, List.length_map]

/-- The leg at the same position of the other row. -/
theorem getElem?_congr (same : ordered.map reading = ordered'.map reading) {position : Nat}
    (at' : ordered[position]? = some current) :
    ∃ current', ordered'[position]? = some current' ∧ current.reading = current'.reading := by
  have read := congrArg (·[position]?) same
  simp only [List.getElem?_map, at', Option.map_some] at read
  obtain ⟨current', at'', equal⟩ := Option.map_eq_some_iff.mp read.symm
  exact ⟨current', at'', equal.symm⟩

theorem arrange_congr (same : ordered.map reading = ordered'.map reading) :
    (arrange ordered).map reading = (arrange ordered').map reading := by
  have arranged (rows : List OrderedLeg) : (arrange rows).map reading =
      (rows.map reading).filter (!·.template.needsWrap) ++
        (rows.map reading).filter (·.template.needsWrap) := by
    rw [List.filter_map, List.filter_map, ← List.map_append]
    rfl
  rw [arranged, arranged, same]

end OrderedLeg

/-! ## Single calls -/

/-- A step behind an amount that does not use its value. -/
theorem Amount.bind_congr {α : Type} {text text' : String} (same : reading text = reading text')
    (next : Except Fault α) :
    (value text >>= fun _ => next) = value text' >>= fun _ => next := by
  have forget (text : String) :
      (value text >>= fun _ => next) = reading text >>= fun _ => next := by
    unfold reading
    cases value text <;> rfl
  rw [forget, forget, same]

namespace Patch

variable {text text' : String}

theorem findAddress_congr (same : Address.decode text = Address.decode text') (data : Bytes)
    (label : String) : findAddress data text label = findAddress data text' label := by
  rw [findAddress, findAddress, same]

theorem balanceOffset_congr (same : Address.decode text = Address.decode text') (data : Bytes) :
    balanceOffset data text = balanceOffset data text' := by
  rw [balanceOffset, balanceOffset, findAddress_congr same]

end Patch

namespace Call

variable {text text' token token' : String}

theorem make_congr (same : Address.decode text = Address.decode text') : make text = make text' := by
  funext data fromAmountPos balanceCheckPos specialDex flag toAmountPos
  rw [make, make, same]

theorem tokenCall_congr (same : Address.decode text = Address.decode text') (selector : Bytes)
    (amount : Int) : Abi.tokenCall selector text amount = Abi.tokenCall selector text' amount := by
  rw [Abi.tokenCall, Abi.tokenCall, same]

theorem approve_congr (spender : Address.decode text = Address.decode text')
    (same : Address.decode token = Address.decode token') (amount flag : Int) :
    approve text token amount flag = approve text' token' amount flag := by
  rw [approve, approve, Abi.approve, Abi.approve, tokenCall_congr spender, make_congr same]

theorem transfer_congr (same : Address.decode token = Address.decode token') (receiver : String) :
    transfer receiver token = transfer receiver token' := by
  rw [transfer, transfer, make_congr same]

variable {call call' : WrapCall}

theorem decode_callee_congr (same : call.reading = call'.reading) :
    Address.decode call.callee.text = Address.decode call'.callee.text := by
  rw [Address.decode_text, Address.decode_text]
  exact congrArg (fun read => Except.ok read.1) same

theorem bytes_data_congr (same : call.reading = call'.reading) :
    call.data.bytes = call'.data.bytes := by
  rw [HexData.bytes_eq, HexData.bytes_eq]
  exact congrArg (fun read => Except.ok read.2) same

theorem wrap_congr (same : call.reading = call'.reading) (flag : Int) :
    wrap call flag = wrap call' flag := by
  rw [wrap, wrap, bytes_data_congr same, make_congr (decode_callee_congr same)]

theorem unwrap_congr (same : call.reading = call'.reading) : unwrap call = unwrap call' := by
  rw [unwrap, unwrap, bytes_data_congr same, make_congr (decode_callee_congr same)]

end Call

/-! ## The calls of a leg -/

/-- The wrap templates read alike where rows of legs need them. -/
structure WrapsAlike (network : Network) (wraps wraps' : Option WrapTemplates)
    (ordered : List OrderedLeg) : Prop where
  deposit : (∃ current ∈ ordered, current.needsWrap = true) →
    (WrapTemplates.deposit? wraps).map WrapCall.reading =
      (WrapTemplates.deposit? wraps').map WrapCall.reading
  withdraw : ∀ last, ordered.getLast? = some last →
    network.isNative last.leg.destToken.text = true →
      (WrapTemplates.withdraw? wraps).map WrapCall.reading =
        (WrapTemplates.withdraw? wraps').map WrapCall.reading

namespace Assembly

variable {network : Network} {wraps wraps' : Option WrapTemplates}
  {ordered ordered' : List OrderedLeg} {current current' last last' : OrderedLeg}
  {position : Nat}

theorem dexCall_congr {leg leg' : Leg} {template template' : CallTemplate} {flag : Flag}
    (plain : Flag.insertsAmount flag.toInt = false) (sameLeg : leg.reading = leg'.reading)
    (sameTemplate : template.reading = template'.reading) :
    dexCall network leg template flag = dexCall network leg' template' flag := by
  have srcToken := Address.bytes_eq_of_normalize (Leg.srcToken_congr sameLeg)
  have destToken := Address.bytes_eq_of_normalize (Leg.destToken_congr sameLeg)
  have srcAmount : Amount.reading leg.srcAmount = Amount.reading leg'.srcAmount :=
    congrArg Leg.Reading.srcAmount sameLeg
  have destAmount : Amount.reading leg.destAmount = Amount.reading leg'.destAmount :=
    congrArg Leg.Reading.destAmount sameLeg
  have checked : Address.decode
        (if network.isNative leg.destToken.text then network.wrappedNative
          else leg.destToken.text) =
      Address.decode
        (if network.isNative leg'.destToken.text then network.wrappedNative
          else leg'.destToken.text) := by
    rw [network.isNative_congr (Leg.destToken_congr sameLeg)]
    split
    · rfl
    · exact Address.decode_congr (Leg.destToken_congr sameLeg)
  simp only [dexCall, HexData.bytes_eq, Patch.embedToken_eq, Outcome.ok_bind, Patch.resolve, plain,
    Bool.false_eq_true, if_false, CallTemplate.data_congr sameTemplate, srcToken, destToken,
    Patch.balanceOffset_congr checked, Call.make_congr (CallTemplate.target_congr sameTemplate),
    CallTemplate.specialDex_congr sameTemplate, Amount.bind_congr srcAmount,
    Amount.bind_congr destAmount]

theorem approval_congr (same : current.reading = current'.reading) :
    approval network current = approval network current' := by
  have srcToken := Leg.srcToken_congr (OrderedLeg.leg_congr same)
  unfold approval
  rw [OrderedLeg.flags_congr same, network.isNative_congr srcToken,
    Call.approve_congr (CallTemplate.target_congr (OrderedLeg.template_congr same))
      (Address.decode_congr srcToken)]

theorem deposit_congr (rows : ordered.map OrderedLeg.reading = ordered'.map OrderedLeg.reading)
    (alike : WrapsAlike network wraps wraps' ordered) (same : current.reading = current'.reading) :
    deposit network wraps ordered position current =
      deposit network wraps' ordered' position current' := by
  unfold deposit
  rw [← OrderedLeg.findIdx?_needsWrap_congr rows]
  cases found : ordered.findIdx? (·.needsWrap) with
  | none => cases WrapTemplates.deposit? wraps <;> cases WrapTemplates.deposit? wraps' <;> rfl
  | some first =>
    have needed : ∃ current ∈ ordered, current.needsWrap = true := by
      rw [← List.any_eq_true, ← List.findIdx?_isSome, found]
      rfl
    have approved := Call.approve_congr
      (CallTemplate.target_congr (OrderedLeg.template_congr same))
      (rfl : Address.decode network.wrappedNative = _) Abi.maxWord current'.flags.approve.toInt
    obtain ⟨given, given'⟩ | ⟨call, call', given, given', sameCall⟩ :=
      WrapCall.cases_of_map_reading (alike.deposit needed)
    · rw [given, given']
    · simp only [given, given', Call.wrap_congr sameCall, OrderedLeg.flags_congr same, approved]

theorem transferStep_congr
    (rows : ordered.map OrderedLeg.reading = ordered'.map OrderedLeg.reading)
    (same : last.reading = last'.reading) :
    transferStep network ordered last = transferStep network ordered' last' := by
  have destToken := Leg.destToken_congr (OrderedLeg.leg_congr same)
  have left := OrderedLeg.any_congr (!·.hasRecipient) rows
  unfold transferStep
  rw [network.isNative_congr destToken, Call.transfer_congr (Address.decode_congr destToken)]
  exact congrArg (fun left => if left && _ then _ else _) left

theorem withdrawStep_congr (same : last.reading = last'.reading)
    (alike : network.isNative last.leg.destToken.text = true →
      (WrapTemplates.withdraw? wraps).map WrapCall.reading =
        (WrapTemplates.withdraw? wraps').map WrapCall.reading) :
    withdrawStep network wraps last = withdrawStep network wraps' last' := by
  have destToken := Leg.destToken_congr (OrderedLeg.leg_congr same)
  unfold withdrawStep
  rw [← network.isNative_congr destToken]
  cases native : network.isNative last.leg.destToken.text with
  | false => rfl
  | true =>
    obtain ⟨given, given'⟩ | ⟨call, call', given, given', sameCall⟩ :=
      WrapCall.cases_of_map_reading (alike native)
    · rw [given, given']
    · simp only [given, given', Call.unwrap_congr sameCall]

theorem forwardStep_congr (same : last.reading = last'.reading) (unwrap : List Call) :
    forwardStep network last unwrap = forwardStep network last' unwrap := by
  unfold forwardStep
  rw [network.isNative_congr (Leg.destToken_congr (OrderedLeg.leg_congr same)),
    CallTemplate.hasRecipient_congr (OrderedLeg.template_congr same)]

theorem cleanUp_congr (rows : ordered.map OrderedLeg.reading = ordered'.map OrderedLeg.reading)
    (same : last.reading = last'.reading)
    (alike : network.isNative last.leg.destToken.text = true →
      (WrapTemplates.withdraw? wraps).map WrapCall.reading =
        (WrapTemplates.withdraw? wraps').map WrapCall.reading) :
    cleanUp network wraps ordered last = cleanUp network wraps' ordered' last' := by
  simp only [cleanUp_eq, transferStep_congr rows same, withdrawStep_congr same alike,
    forwardStep_congr same]

theorem calls_congr (rows : ordered.map OrderedLeg.reading = ordered'.map OrderedLeg.reading)
    (alike : WrapsAlike network wraps wraps' ordered) (at' : ordered[position]? = some current)
    (same : current.reading = current'.reading) (assigned : current.Assigned network) :
    calls network wraps ordered position current =
      calls network wraps' ordered' position current' := by
  have dex : dexCall network current.leg current.template current.flags.dex =
      dexCall network current'.leg current'.template current.flags.dex :=
    dexCall_congr assigned.plain (OrderedLeg.leg_congr same) (OrderedLeg.template_congr same)
  rw [OrderedLeg.flags_congr same] at dex
  have behind : (if (position : Int) = (ordered.length : Int) - 1 then
        cleanUp network wraps ordered current else pure []) =
      if (position : Int) = (ordered'.length : Int) - 1 then
        cleanUp network wraps' ordered' current' else pure [] := by
    rw [← OrderedLeg.length_congr rows]
    split
    · rename_i here
      refine cleanUp_congr rows same (alike.withdraw current ?_)
      rw [List.getLast?_eq_getElem?, ← at']
      congr 1
      omega
    · rfl
  simp only [calls, Outcome.ite_bind, behind, dex, OrderedLeg.flags_congr same,
    approval_congr same, deposit_congr rows alike same]

theorem legFrame_congr (rows : ordered.map OrderedLeg.reading = ordered'.map OrderedLeg.reading)
    (alike : WrapsAlike network wraps wraps' ordered)
    (assigned : ∀ current ∈ ordered, current.Assigned network) (inside : position < ordered.length) :
    (legFrame network wraps ordered position).outcome =
      (legFrame network wraps' ordered' position).outcome := by
  have at' := List.getElem?_eq_getElem inside
  obtain ⟨current', at'', same⟩ := OrderedLeg.getElem?_congr rows at'
  have srcToken := Leg.srcToken_congr (OrderedLeg.leg_congr same)
  have destToken := Leg.destToken_congr (OrderedLeg.leg_congr same)
  have percent : ordered[position].leg.percent = current'.leg.percent :=
    congrArg (·.leg.percent) same
  have withdraw : needsWithdraw network ordered ordered[position] =
      needsWithdraw network ordered' current' := by
    unfold needsWithdraw
    rw [network.isNative_congr srcToken]
    exact congrArg (· && _) (OrderedLeg.any_congr (·.needsWrap) rows)
  simp only [legFrame, Traced.outcome_bind, Traced.outcome_monadLift, Traced.outcome_report,
    Traced.outcome_pure, legAt_natCast at', legAt_natCast at'', Outcome.ok_bind,
    calls_congr rows alike at' same (assigned _ (List.getElem_mem inside)), Payload.legFrame,
    Patch.findAddress_congr (Address.decode_congr srcToken),
    Patch.findAddress_congr (Address.decode_congr destToken), percent, withdraw]

/-- The frames at some positions, by induction on these. -/
theorem legFrames_congr (rows : ordered.map OrderedLeg.reading = ordered'.map OrderedLeg.reading)
    (alike : WrapsAlike network wraps wraps' ordered)
    (assigned : ∀ current ∈ ordered, current.Assigned network) {positions : List Nat}
    (inside : ∀ position ∈ positions, position < ordered.length) :
    (legFrames network wraps ordered positions).outcome =
      (legFrames network wraps' ordered' positions).outcome := by
  induction positions with
  | nil => rfl
  | cons position rest ih =>
    rw [List.forall_mem_cons] at inside
    simp only [legFrames, Traced.outcome_bind, Traced.outcome_pure,
      legFrame_congr rows alike assigned inside.1, ih inside.2]

theorem legFrames_executors (network : Network) (executors : List (Executor × String))
    (wraps : Option WrapTemplates) (ordered : List OrderedLeg) (positions : List Nat) :
    legFrames { network with executors } wraps ordered positions =
      legFrames network wraps ordered positions := by
  induction positions with
  | nil => rfl
  | cons position rest ih =>
    rw [legFrames, legFrames, ih]
    rfl

end Assembly

end SwapCompiler
