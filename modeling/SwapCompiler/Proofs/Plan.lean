import SwapCompiler.Compiler
import SwapCompiler.Payload.Reader
import SwapCompiler.Proofs.Address
import SwapCompiler.Proofs.Payload.Framing

/-!
# What a payload should hold

The calls, frames and legs of a payload, said without the steps that make them: which
calls a leg has depends on its place in the order, on what it sells and buys, on the other
legs' recipients and on the wrap templates. Nothing can go wrong here; when the compiler
follows the plan, and when it refuses, is said by `Plan.Feasible` and the modules on it.
-/

namespace SwapCompiler.Plan

/-! ## Single calls -/

/-- Approves `spender` on `token` without limit. -/
def approve (token spender : Bytes) : Call where
  target := token
  fromAmountPos := 0
  balanceCheckPos := 0
  toAmountPos := 0
  specialDex := 0
  flag := 0
  data := Abi.approveSelector ++ Bytes.zeros 12 ++ spender ++ List.replicate 32 0xff

/-- Deposits native value: flag 9 sends it along. -/
def deposit (template : WrapCall) : Call where
  target := template.callee.bytes
  fromAmountPos := 0
  balanceCheckPos := 0
  toAmountPos := 0
  specialDex := 0
  flag := 9
  data := template.data.content

/-- Transfers what is left of `token`: flag 11 inserts the amount behind the receiver. -/
def transfer (token receiver : Bytes) : Call where
  target := token
  fromAmountPos := 36
  balanceCheckPos := 0
  toAmountPos := 0
  specialDex := 0
  flag := 11
  data := Abi.transferSelector ++ Bytes.zeros 12 ++ receiver ++ Bytes.zeros 32

/-- Withdraws native value: flag 7 inserts the amount behind the selector. -/
def withdraw (template : WrapCall) : Call where
  target := template.callee.bytes
  fromAmountPos := 4
  balanceCheckPos := 4
  toAmountPos := 0
  specialDex := 0
  flag := 7
  data := template.data.content

/-- Forwards the native balance to the caller. -/
def forwardNative : Call where
  target := Bytes.zeros 20
  fromAmountPos := 0
  balanceCheckPos := 0
  toAmountPos := 0
  specialDex := 2
  flag := 0
  data := []

/-! ## The dex call -/

/-- The data with the word of a token behind it, unless the token occurs in it. -/
def embed (data token : Bytes) : Bytes :=
  if data.contains token then data else data ++ Bytes.zeros 12 ++ token

/-- The template's call data with the source token and then the destination token embedded. -/
def dexData (leg : Leg) (template : CallTemplate) : Bytes :=
  embed (embed template.data.content leg.srcToken.bytes) leg.destToken.bytes

/-- The token whose balance is checked: the wrapped one where native value is bought. -/
def balanceToken (network : Network) (leg : Leg) : Bytes :=
  if network.isNative leg.destToken.text then Address.bytesOf network.wrappedNative
  else leg.destToken.bytes

/-- The first occurrence of the checked token. -/
def balanceIndex? (network : Network) (leg : Leg) (template : CallTemplate) : Option Nat :=
  Bytes.firstIndex? (balanceToken network leg) (dexData leg template)

/-- Whether the flag has the balance of the destination token checked. -/
def checksToken (flag : Flag) : Bool := flag.val % 3 == 2

/-- The start of the word that ends with the checked token, where one is checked. -/
def balancePos (network : Network) (leg : Leg) (template : CallTemplate) (flag : Flag) : Nat :=
  if checksToken flag then (balanceIndex? network leg template).getD 0 - 12 else 0

/-- The dex call of a leg. -/
def dex (network : Network) (leg : Leg) (template : CallTemplate) (flag : Flag) : Call where
  target := template.target.bytes
  fromAmountPos := 0
  balanceCheckPos := .ofNat (balancePos network leg template flag)
  toAmountPos := 0
  specialDex := template.specialDex
  flag := .ofNat flag.val
  data := dexData leg template

theorem toNat_flag_dex (network : Network) (leg : Leg) (template : CallTemplate) (flag : Flag) :
    ((dex network leg template flag).flag.toNat : Int) = flag.toInt := by
  have small : ∀ flag : Flag, ((UInt16.ofNat flag.val).toNat : Int) = flag.toInt := by decide
  exact small flag

/-! ## The calls of a leg -/

section Leg

variable (network : Network) (wraps : Option WrapTemplates) (ordered : List OrderedLeg)

/-- The first leg that needs wrapping approves the wrapped token and deposits. -/
def deposits (position : Nat) (current : OrderedLeg) : List Call :=
  match WrapTemplates.deposit? wraps with
  | some template =>
    if ordered.findIdx? (·.needsWrap) = some position then
      [approve (Address.bytesOf network.wrappedNative) current.template.target.bytes,
        deposit template]
    else []
  | none => []

/-- A source token that is not native is approved. -/
def approvals (current : OrderedLeg) : List Call :=
  if network.isNative current.leg.srcToken.text then []
  else [approve current.leg.srcToken.bytes current.template.target.bytes]

/-- Leftover output is transferred if some leg lacks a recipient and it is not native. -/
def transfers (last : OrderedLeg) : List Call :=
  if ordered.any (!·.template.hasRecipient) && !network.isNative last.leg.destToken.text then
    [transfer last.leg.destToken.bytes (Address.bytesOf network.receiver)]
  else []

/-- Native output is withdrawn if there is a call for it. -/
def withdrawals (last : OrderedLeg) : List Call :=
  if network.isNative last.leg.destToken.text then
    ((WrapTemplates.withdraw? wraps).map withdraw).toList
  else []

/-- Native output is forwarded if it was withdrawn or the last leg lacks a recipient. -/
def forwards (last : OrderedLeg) : List Call :=
  if network.isNative last.leg.destToken.text &&
      (!last.template.hasRecipient || (WrapTemplates.withdraw? wraps).isSome) then
    [forwardNative]
  else []

/-- The calls behind the last dex call. -/
def cleanUp (last : OrderedLeg) : List Call :=
  transfers network ordered last ++ withdrawals network wraps last ++ forwards network wraps last

/-- The calls of the leg at a position. -/
def calls (position : Nat) (current : OrderedLeg) : List Call :=
  deposits network wraps ordered position current ++ approvals network current ++
    dex network current.leg current.template current.flags.dex ::
      (if position + 1 = ordered.length then cleanUp network wraps ordered current else [])

/-! ## Frames and payloads -/

/-- The offset at which a pattern that occurs in the data is found. -/
def offsetOf (pattern data : Bytes) : Nat := (Bytes.firstIndex? pattern data).getD 0

/-- The share of a leg in hundredths of a percent. -/
@[irreducible] def hundredths (leg : Leg) : Nat :=
  ((Percentage.encode (.float leg.percent)).toOption.getD 0).toNat

/-- The frame of the leg at a position. -/
def frame (position : Nat) (current : OrderedLeg) : Payload.LegFrame where
  withdraw := if Assembly.needsWithdraw network ordered current then 1 else 0
  destTokenPos := offsetOf current.leg.destToken.bytes
    (Call.encodeAll (calls network wraps ordered position current))
  srcTokenPos := offsetOf current.leg.srcToken.bytes
    (Call.encodeAll (calls network wraps ordered position current))
  hundredths := hundredths current.leg
  calls := calls network wraps ordered position current

/-- The frames of all legs, in the order of assembly. -/
def frames : List Payload.LegFrame := ordered.mapIdx (frame network wraps ordered)

/-! ## Kinds of calls -/

variable {network wraps ordered}

/-- What a planned call can be. -/
theorem mem_calls {position : Nat} {current : OrderedLeg} {call : Call}
    (h : call ∈ calls network wraps ordered position current) :
    (∃ token, (token = Address.bytesOf network.wrappedNative ∨
        token = current.leg.srcToken.bytes) ∧
      call = approve token current.template.target.bytes) ∨
    (∃ template, WrapTemplates.deposit? wraps = some template ∧ call = deposit template) ∨
    call = dex network current.leg current.template current.flags.dex ∨
    (position + 1 = ordered.length ∧ call ∈ cleanUp network wraps ordered current) := by
  simp only [calls, List.mem_append, List.mem_cons] at h
  obtain (h | h) | h | h := h
  · unfold deposits at h
    split at h
    · rename_i template given
      split at h
      · simp only [List.mem_cons, List.not_mem_nil, or_false] at h
        obtain rfl | rfl := h
        · exact .inl ⟨_, .inl rfl, rfl⟩
        · exact .inr (.inl ⟨template, given, rfl⟩)
      · cases h
    · cases h
  · unfold approvals at h
    split at h
    · cases h
    · exact .inl ⟨_, .inr rfl, List.mem_singleton.mp h⟩
  · exact .inr (.inr (.inl h))
  · split at h
    · rename_i last
      exact .inr (.inr (.inr ⟨last, h⟩))
    · cases h

/-- What a planned call that cleans up can be. -/
theorem mem_cleanUp {call : Call} {last : OrderedLeg}
    (h : call ∈ cleanUp network wraps ordered last) :
    (call ∈ transfers network ordered last ∧
      call = transfer last.leg.destToken.bytes (Address.bytesOf network.receiver)) ∨
    (∃ template, WrapTemplates.withdraw? wraps = some template ∧ call = withdraw template) ∨
    call = forwardNative := by
  simp only [cleanUp, List.mem_append] at h
  obtain (h | h) | h := h
  · refine .inl ⟨h, ?_⟩
    unfold transfers at h
    split at h
    · exact List.mem_singleton.mp h
    · cases h
  · unfold withdrawals at h
    split at h
    · simp only [Option.mem_toList, Option.map_eq_some_iff] at h
      obtain ⟨template, given, rfl⟩ := h
      exact .inr (.inl ⟨template, given, rfl⟩)
    · cases h
  · unfold forwards at h
    split at h
    · exact .inr (.inr (List.mem_singleton.mp h))
    · cases h

end Leg

/-- The flags of one of `count` legs. -/
def flags (network : Network) (wraps : Option WrapTemplates) (count : Nat) (leg : Leg)
    (template : CallTemplate) : LegFlags :=
  if count = 1 then Classification.single network wraps leg template
  else Classification.parallel network wraps leg template

/-- The legs with their templates and flags, in the order of assembly. -/
def ordered (network : Network) (wraps : Option WrapTemplates) (legs : List Leg)
    (templates : List CallTemplate) : List OrderedLeg :=
  OrderedLeg.arrange (List.zipWith
    (fun leg template => ⟨leg, template, flags network wraps legs.length leg template⟩)
    legs templates)

/-- The frames of a route's payload. -/
def routeFrames (network : Network) (route : PriceRoute) (templates : List CallTemplate)
    (wraps : Option WrapTemplates) : List Payload.LegFrame :=
  frames network wraps (ordered network wraps route.legs templates)

/-- The bytes behind the two words of a route's payload. -/
def body (network : Network) (route : PriceRoute) (templates : List CallTemplate)
    (wraps : Option WrapTemplates) : Bytes :=
  (routeFrames network route templates wraps).flatMap Payload.LegFrame.encode

/-- The payload of a route. -/
def payload (network : Network) (route : PriceRoute) (templates : List CallTemplate)
    (wraps : Option WrapTemplates) : Bytes :=
  Payload.encode (routeFrames network route templates wraps)

end SwapCompiler.Plan
