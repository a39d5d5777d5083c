import SwapCompiler.Proofs.Compiler

/-!
# What a payload holds

A payload is read back to the last byte as the frames of its legs in the order of assembly,
and each frame as exactly the calls that the plan has for its leg.
-/

namespace SwapCompiler

/-! ## A small request -/

namespace Sample

/-- The well-known network. -/
def network : Network :=
  ⟨Network.wrappedNativeToken, Network.nativePlaceholder, Network.leftoverReceiver, []⟩

def native : Address := ⟨Network.nativePlaceholder, by decide⟩

def token : Address := ⟨"0x6b175474e89094c44da98b954eedeac495271d0f", by decide⟩

def exchange : Address := ⟨"0x1111111254eeb25477b68fb85ed929f73a960582", by decide⟩

def wrapper : Address := ⟨Network.wrappedNativeToken, by decide⟩

def leg (srcToken destToken : Address) (percent : Float) : Leg :=
  ⟨srcToken, destToken, "1000", "999", percent, none⟩

def route (legs : List Leg) : PriceRoute := ⟨token, native, "1000", "999", [⟨.int 100, legs⟩]⟩

/-- A template of four bytes, in which no token occurs. -/
def template (hasRecipient needsWrap : Bool) : CallTemplate :=
  ⟨exchange, ⟨"0x12345678", by decide⟩, hasRecipient, needsWrap, 0⟩

/-- A call of the wrapped token with the selector of `deposit()`. -/
def deposit : WrapCall := ⟨wrapper, ⟨"0xd0e30db0", by decide⟩⟩

/-- Two legs, each with half of the amount. -/
def halves (srcToken destToken : Address) : List Leg :=
  [leg srcToken destToken 50, leg srcToken destToken 50]

/-- The only leg sells native value, which is wrapped for it. -/
def legs : List Leg := [leg native token 100]

def templates : List CallTemplate := [template true true]

def wraps : Option WrapTemplates := some ⟨some deposit, none⟩

/-- A withdrawal with a word for the amount. -/
def withdrawal : WrapCall :=
  ⟨wrapper, ⟨"0x2e1a7d4d0000000000000000000000000000000000000000000000000000000000000000",
    by decide⟩⟩

def withdraws : Option WrapTemplates := some ⟨none, some withdrawal⟩

def buysNative : List Leg := [leg token native 100]

/-- The first of two legs needs wrapping, and its exchange leaves the output with the executor. -/
def firstWraps : List CallTemplate := [template false true, template true false]

theorem strict_network : network.Strict := ⟨by decide, by decide, by decide⟩

theorem isNative_native : network.isNative native.text = true := by
  decide +kernel

theorem isNative_token : network.isNative token.text = false := by
  decide +kernel

theorem exists_payload_of_legs :
    ∃ payload, (Compiler.compile network (route legs) templates "" wraps).outcome =
      .ok payload := by
  have made : (Compiler.compile network (route legs) templates "" wraps).outcome.isOk = true := by
    decide +kernel
  exact Outcome.exists_of_isOk made

end Sample

namespace Compiler

variable {network : Network} {route : PriceRoute} {templates : List CallTemplate}
  {sender : String} {wraps : Option WrapTemplates} {payload : Bytes}

/-- What is found out about a payload by reading it. -/
theorem exists_contents {outcome : Except Fault Bytes} {found : Payload.Contents → Bool}
    (h : (outcome.toOption.bind Payload.read?).any found = true) :
    ∃ payload contents, outcome = .ok payload ∧ Payload.read? payload = some contents ∧
      found contents = true := by
  obtain ⟨contents, read, holds⟩ := (Option.any_eq_true _ _).mp h
  obtain ⟨payload, made, read⟩ := Option.bind_eq_some_iff.mp read
  cases outcome with
  | error fault => cases made
  | ok value =>
    cases made
    exact ⟨payload, contents, rfl, read, holds⟩

/-- The flags and the order that were taken are those of the plan. -/
theorem order_of_admits (admits : Admits network route templates wraps) :
    ∃ flags, Classification.flags network wraps route.legs templates = .ok flags ∧
      OrderedLeg.order route.legs templates flags =
        .ok (Plan.ordered network wraps route.legs templates) :=
  ⟨_, Classification.flags_eq network wraps admits.aligned,
    OrderedLeg.order_eq network wraps admits.aligned⟩

/-- A payload is two words, 32 and the length of what follows with the caller's 96 bytes, and
one frame a leg in the order of assembly. Reading takes it apart without a byte left over,
and every frame holds the planned calls and no other. -/
theorem payload_contents
    (h : (compile network route templates sender wraps).outcome = .ok payload) :
    ∃ flags ordered frames,
      Classification.flags network wraps route.legs templates = .ok flags ∧
      OrderedLeg.order route.legs templates flags = .ok ordered ∧
      ordered.length = route.legs.length ∧
      64 ≤ payload.length ∧
      payload.drop 64 = frames.flatMap Payload.LegFrame.encode ∧
      Payload.read? payload = some ⟨32, (payload.length - 64) + 96, frames⟩ ∧
      frames.map (·.calls) = ordered.mapIdx (Plan.calls network wraps ordered) := by
  have read := read?_of_compile h
  obtain ⟨admits, -, rfl⟩ := compile_sound h
  obtain ⟨flags, classified, arranged⟩ := order_of_admits admits
  have length : (Plan.payload network route templates wraps).length =
      64 + (Plan.body network route templates wraps).length := Payload.length_encode _
  refine ⟨flags, _, Plan.routeFrames network route templates wraps, classified, arranged,
    Plan.length_ordered network wraps admits.aligned, by omega, Payload.drop_encode _, ?_, ?_⟩
  · rw [read, length, Nat.add_sub_cancel_left]
    rfl
  · rw [Plan.routeFrames, Plan.frames, List.mapIdx_eq_zipIdx_map, List.map_map,
      List.mapIdx_eq_zipIdx_map]
    rfl

theorem payload_contents_of_two_legs :
    ∃ payload,
      (compile Sample.network (Sample.route (Sample.halves Sample.native Sample.token))
        Sample.firstWraps "" Sample.wraps).outcome = .ok payload ∧
      ∃ flags ordered frames,
        Classification.flags Sample.network Sample.wraps
          (Sample.halves Sample.native Sample.token) Sample.firstWraps = .ok flags ∧
        OrderedLeg.order (Sample.halves Sample.native Sample.token) Sample.firstWraps flags =
          .ok ordered ∧
        ordered.length = 2 ∧
        64 ≤ payload.length ∧
        payload.drop 64 = frames.flatMap Payload.LegFrame.encode ∧
        Payload.read? payload = some ⟨32, (payload.length - 64) + 96, frames⟩ ∧
        frames.map (·.calls) =
          ordered.mapIdx (Plan.calls Sample.network Sample.wraps ordered) ∧
        ∃ direct wrapped, ordered = [direct, wrapped] ∧
          direct.template = Sample.template true false ∧
          wrapped.template = Sample.template false true ∧
          frames.map (·.calls) =
            [[Plan.dex Sample.network direct.leg direct.template direct.flags.dex],
              [Plan.approve Sample.wrapper.bytes Sample.exchange.bytes,
                Plan.deposit Sample.deposit,
                Plan.dex Sample.network wrapped.leg wrapped.template wrapped.flags.dex,
                Plan.transfer Sample.token.bytes (Address.bytesOf Sample.network.receiver)]] := by
  have made : (compile Sample.network (Sample.route (Sample.halves Sample.native Sample.token))
      Sample.firstWraps "" Sample.wraps).outcome.isOk = true := by
    decide +kernel
  obtain ⟨payload, made⟩ := Outcome.exists_of_isOk made
  obtain ⟨flags, ordered, frames, classified, arranged, length, size, body, read, calls⟩ :=
    payload_contents made
  refine ⟨payload, made, flags, ordered, frames, classified, arranged, length, size, body, read,
    calls, ?_⟩
  -- the leg that needs wrapping is assembled behind the other one
  obtain ⟨admits, -⟩ := compile_sound made
  obtain ⟨_, classified', arranged'⟩ := order_of_admits admits
  cases classified.symm.trans classified'
  cases arranged.symm.trans arranged'
  obtain ⟨direct, wrapped, pair, plain, needing, sold, sold', bought⟩ : ∃ direct wrapped,
      Plan.ordered Sample.network Sample.wraps
        (Sample.route (Sample.halves Sample.native Sample.token)).legs Sample.firstWraps =
          [direct, wrapped] ∧
      direct.template = Sample.template true false ∧
      wrapped.template = Sample.template false true ∧
      direct.leg.srcToken = Sample.native ∧ wrapped.leg.srcToken = Sample.native ∧
      wrapped.leg.destToken = Sample.token :=
    ⟨_, _, rfl, rfl, rfl, rfl, rfl, rfl⟩
  refine ⟨direct, wrapped, pair, plain, needing, ?_⟩
  have given : WrapTemplates.deposit? Sample.wraps = some Sample.deposit := rfl
  have wrapper : Address.bytesOf Sample.network.wrappedNative = Sample.wrapper.bytes := rfl
  rw [calls, pair]
  simp [Plan.calls, Plan.deposits, Plan.approvals, Plan.cleanUp, Plan.transfers,
    Plan.withdrawals, Plan.forwards, OrderedLeg.needsWrap, List.findIdx?_cons, plain, needing,
    Sample.template, sold, sold', bought, Sample.isNative_native, Sample.isNative_token, given,
    wrapper]

end Compiler

end SwapCompiler
