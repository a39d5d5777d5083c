import SwapCompiler.Call
import SwapCompiler.Network
import SwapCompiler.Payload
import SwapCompiler.Route.Ordering
import SwapCompiler.Traced

/-!
# The calls of a leg

Around its dex call a leg may need an approval of its source token; the first leg that
needs wrapping also deposits, behind an approval of the wrapped token; and the last leg
cleans up: it transfers leftover output, or withdraws and forwards native value.
-/

namespace SwapCompiler.Assembly

/-- The dex call of a leg. Both tokens are embedded in the template's call data before the
patch points are looked up; native output is checked on the wrapped token, which is what
the exchange returns. -/
def dexCall (network : Network) (leg : Leg) (template : CallTemplate) (flag : Flag) :
    Except Fault Call := do
  let data ← template.data.bytes
  let data ← Patch.embedToken data leg.srcToken.text
  let data ← Patch.embedToken data leg.destToken.text
  let balanceToken :=
    if network.isNative leg.destToken.text then network.wrappedNative else leg.destToken.text
  let srcAmount ← Amount.value leg.srcAmount
  let destAmount ← Amount.value leg.destAmount
  let points ← Patch.resolve data flag.toInt balanceToken srcAmount destAmount
  Call.make template.target.text data points.fromAmount points.balanceCheck
    template.specialDex.toNat flag.toInt points.toAmount

/-- The approval of a leg's source token. None is needed where the dex call sends native
value or the source is native. -/
def approval (network : Network) (current : OrderedLeg) : Except Fault (List Call) :=
  if current.flags.dex.toInt % 4 ≠ 1 ∧ !network.isNative current.leg.srcToken.text then
    (Call.approve current.template.target.text current.leg.srcToken.text Abi.maxWord
      current.flags.approve.toInt).map ([·])
  else .ok []

/-- The deposit of the leg at `position` behind an approval of the wrapped token. Only the
first leg that needs wrapping deposits. -/
def deposit (network : Network) (wraps : Option WrapTemplates) (ordered : List OrderedLeg)
    (position : Int) (current : OrderedLeg) : Except Fault (List Call) :=
  match WrapTemplates.deposit? wraps, ordered.findIdx? (·.needsWrap) with
  | some call, some wrapPosition =>
    if (wrapPosition : Int) = position then do
      let approve ← Call.approve current.template.target.text network.wrappedNative
        Abi.maxWord current.flags.approve.toInt
      let wrap ← Call.wrap call 9
      return [approve, wrap]
    else .ok []
  | _, _ => .ok []

/-- The calls behind the last dex call. Leftover output is transferred if some exchange
sent it here and it is not native; native output is withdrawn if there is a call for it,
and forwarded if it was withdrawn or the last exchange sent it here. -/
def cleanUp (network : Network) (wraps : Option WrapTemplates) (ordered : List OrderedLeg)
    (last : OrderedLeg) : Except Fault (List Call) := do
  let destToken := last.leg.destToken.text
  let nativeDest := network.isNative destToken
  let transfer ←
    if ordered.any (!·.template.hasRecipient) && !nativeDest then
      (Call.transfer network.receiver destToken).map ([·])
    else pure []
  let unwrap ← match nativeDest, WrapTemplates.withdraw? wraps with
    | true, some withdraw => (Call.unwrap withdraw).map ([·])
    | _, _ => pure []
  let forward ←
    if nativeDest && (!last.template.hasRecipient || !unwrap.isEmpty) then
      Call.forwardNative.map ([·])
    else pure []
  return transfer ++ unwrap ++ forward

/-- The leg at a position. A negative position counts from behind. -/
def legAt (ordered : List OrderedLeg) (position : Int) : Except Fault OrderedLeg :=
  let index := if position < 0 then position + ordered.length else position
  if index < 0 then .error .noSuchLeg
  else match ordered[index.toNat]? with
    | some leg => .ok leg
    | none => .error .noSuchLeg

/-- The calls of the leg at a position, in order. The leg's own calls are made before
those that go in front of them. -/
def calls (network : Network) (wraps : Option WrapTemplates) (ordered : List OrderedLeg)
    (position : Int) (current : OrderedLeg) : Except Fault (List Call) := do
  let dex ← dexCall network current.leg current.template current.flags.dex
  let approval ← approval network current
  let deposit ← deposit network wraps ordered position current
  let cleanUp ←
    if position = (ordered.length : Int) - 1 then cleanUp network wraps ordered current
    else pure []
  return deposit ++ approval ++ dex :: cleanUp

/-- Whether wrapped native value may be left over behind a leg: some leg needs wrapping
and this one sells native value. -/
def needsWithdraw (network : Network) (ordered : List OrderedLeg) (current : OrderedLeg) :
    Bool :=
  ordered.any (·.needsWrap) && network.isNative current.leg.srcToken.text

/-- The frame of the leg at a position. -/
def legFrame (network : Network) (wraps : Option WrapTemplates) (ordered : List OrderedLeg)
    (position : Int) : Traced Bytes := do
  let current ← legAt ordered position
  let calls ← calls network wraps ordered position current
  let body := Call.encodeAll calls
  let withdraw := needsWithdraw network ordered current
  let frame ← Payload.legFrame body (.float current.leg.percent) current.leg.srcToken.text
    current.leg.destToken.text withdraw
  Traced.report (.legAssembled position current.template.target.text current.flags.dex
    current.leg.percent withdraw body.length (network.isNative current.leg.destToken.text))
  return frame

/-- The frames of the legs at the given positions, one after another. -/
def legFrames (network : Network) (wraps : Option WrapTemplates) (ordered : List OrderedLeg) :
    (positions : List Nat) → Traced (List Bytes)
  | [] => pure []
  | position :: rest => do
    let frame ← legFrame network wraps ordered position
    let frames ← legFrames network wraps ordered rest
    return frame :: frames

end SwapCompiler.Assembly
