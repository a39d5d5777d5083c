import SwapCompiler.Proofs.Contents
import SwapCompiler.Proofs.Reading.Compiler

/-!
# What a payload does not depend on

Of the legs only the trades matter: amounts are read on every compilation, but only a flag that
inserts them would use their values, and no leg is given one. Who sends, what the priced route
says about itself, further candidate routes and deployed executors do not matter at all
(`Compiler.outcome_of_same_trades`). The deposit matters only where some template needs wrapping,
and the withdrawal only where the last leg buys native value
(`Compiler.outcome_of_needed_wraps`).
-/

namespace SwapCompiler

namespace Leg

/-- What a leg trades: its tokens and its share of the input. -/
def trade (leg : Leg) : Address × Address × Float := (leg.srcToken, leg.destToken, leg.percent)

/-- What is read of a leg with this trade whose amounts can be read. -/
def tradeReading (trade : Address × Address × Float) : Reading where
  srcToken := Address.normalize trade.1.text
  destToken := Address.normalize trade.2.1.text
  percent := trade.2.2
  srcAmount := .ok ()
  destAmount := .ok ()

theorem reading_of_amountsRead {leg : Leg} (read : leg.AmountsRead) :
    leg.reading = tradeReading leg.trade := by
  obtain ⟨⟨src, readSrc⟩, dest, readDest⟩ := read
  rw [reading, Amount.reading, Amount.reading, readSrc, readDest]
  rfl

/-- Rows of legs with the same trades read alike, as far as their amounts can be read. -/
theorem map_reading_of_trades {legs legs' : List Leg} (same : legs.map trade = legs'.map trade)
    (read : ∀ leg ∈ legs, leg.AmountsRead) (read' : ∀ leg ∈ legs', leg.AmountsRead) :
    legs.map reading = legs'.map reading := by
  have traded {legs : List Leg} (read : ∀ leg ∈ legs, leg.AmountsRead) :
      legs.map reading = (legs.map trade).map tradeReading := by
    rw [List.map_map]
    exact List.map_congr_left fun leg member => reading_of_amountsRead (read leg member)
  rw [traded read, traded read', same]

end Leg

namespace Sample

/-- The same token sold for native value, but nothing else in common with `route legs`. -/
def otherRoute : PriceRoute :=
  ⟨native, token, "7", "0", [⟨.int 50, [⟨native, token, "0", "1_0", 100, some "exchange"⟩]⟩,
    ⟨.int 50, []⟩]⟩

def withExecutors : Network :=
  { network with executors := [(.three, Network.thirdExecutor)] }

/-- The deposit of `wraps`, and a withdrawal. -/
def bothWraps : Option WrapTemplates :=
  some ⟨some deposit, some ⟨wrapper, ⟨"0x2e1a7d4d", by decide⟩⟩⟩

end Sample

namespace Compiler

variable {network network' : Network} {route route' : PriceRoute}
  {templates : List CallTemplate} {wraps wraps' : Option WrapTemplates}

/-- Compilations with the same trades, templates and addresses end alike, whatever the amounts,
the sender, the rest of the priced route and the executors are. -/
theorem outcome_of_same_trades (wrappedNative : network.wrappedNative = network'.wrappedNative)
    (native : network.native = network'.native) (receiver : network.receiver = network'.receiver)
    (trades : route.legs.map Leg.trade = route'.legs.map Leg.trade)
    (read : ∀ leg ∈ route.legs, leg.AmountsRead) (read' : ∀ leg ∈ route'.legs, leg.AmountsRead)
    (sender sender' : String) :
    (compile network route templates sender wraps).outcome =
      (compile network' route' templates sender' wraps).outcome := by
  have same : compile network' = compile network := by
    have differ : network' = { network with executors := network'.executors } := by
      rw [wrappedNative, native, receiver]
    rw [differ, compile_executors network'.executors]
  rw [same]
  exact outcome_congr ⟨Leg.map_reading_of_trades trades read read', rfl, fun _ => rfl,
    fun _ => rfl⟩ sender sender'

theorem outcome_of_same_trades_other_route :
    ∃ payload,
      (compile Sample.network (Sample.route Sample.legs) Sample.templates "" Sample.wraps).outcome =
        .ok payload ∧
      (compile Sample.withExecutors Sample.otherRoute Sample.templates "sender"
        Sample.wraps).outcome = .ok payload := by
  obtain ⟨payload, made⟩ := Sample.exists_payload_of_legs
  have read : ∀ leg ∈ (Sample.route Sample.legs).legs, leg.AmountsRead := by
    intro leg member
    obtain rfl := List.mem_singleton.mp member
    exact ⟨⟨1000, by decide⟩, 999, by decide⟩
  have read' : ∀ leg ∈ Sample.otherRoute.legs, leg.AmountsRead := by
    intro leg member
    obtain rfl := List.mem_singleton.mp member
    exact ⟨⟨0, by decide⟩, 10, by decide⟩
  have same := @outcome_of_same_trades Sample.network Sample.withExecutors
    (Sample.route Sample.legs) Sample.otherRoute Sample.templates Sample.wraps rfl rfl rfl rfl read
    read' "" "sender"
  exact ⟨payload, made, same.symm.trans made⟩

/-- Compilations that differ only in wrap templates which are not needed end alike. -/
theorem outcome_of_needed_wraps
    (deposit : (∃ template ∈ templates, template.needsWrap = true) →
      WrapTemplates.deposit? wraps = WrapTemplates.deposit? wraps')
    (withdraw : BuysNativeLast network route.legs templates →
      WrapTemplates.withdraw? wraps = WrapTemplates.withdraw? wraps') (sender : String) :
    (compile network route templates sender wraps).outcome =
      (compile network route templates sender wraps').outcome :=
  outcome_congr ⟨rfl, rfl, fun needed => by rw [deposit needed],
    fun native => by rw [withdraw native]⟩ sender sender

/-- A leg that buys native value last is one of the given legs. -/
theorem BuysNativeLast.exists_leg {legs : List Leg} (h : BuysNativeLast network legs templates) :
    ∃ leg ∈ legs, network.isNative leg.destToken.text = true := by
  obtain ⟨flags, front, last, arranged, native⟩ := h
  have member : last ∈ front ++ [last] := List.mem_append_right front List.mem_cons_self
  exact ⟨last.leg, OrderedLeg.leg_mem_of_order arranged member, native⟩

theorem outcome_of_needed_wraps_token_bought :
    ∃ payload,
      (compile Sample.network (Sample.route Sample.legs) Sample.templates "" Sample.wraps).outcome =
        .ok payload ∧
      (compile Sample.network (Sample.route Sample.legs) Sample.templates ""
        Sample.bothWraps).outcome = .ok payload := by
  obtain ⟨payload, made⟩ := Sample.exists_payload_of_legs
  have foreign : ¬ BuysNativeLast Sample.network (Sample.route Sample.legs).legs
      Sample.templates := by
    intro buys
    obtain ⟨leg, member, native⟩ := buys.exists_leg
    obtain rfl := List.mem_singleton.mp member
    exact absurd native (by decide +kernel)
  have same := @outcome_of_needed_wraps Sample.network (Sample.route Sample.legs) Sample.templates
    Sample.wraps Sample.bothWraps (fun _ => rfl) (fun buys => absurd buys foreign) ""
  exact ⟨payload, made, same.symm.trans made⟩

end Compiler

end SwapCompiler
