import SwapCompiler.Route.Assembly
import SwapCompiler.Route.Classification

/-!
# Compiling a priced route

The first candidate route is compiled into one payload: preconditions, flags, order, leg
frames, payload frame. A route is refused if it has no legs, if its templates do not match
them in number, or if the first leg that needs wrapping sells native value and no deposit
is given. Shares that do not add up to a hundred percent are reported and compiled all the
same. The sender is only reported.
-/

namespace SwapCompiler.Compiler

/-- How far the shares may be off a hundred percent without a report. -/
def percentTolerance : Float := 0.01

/-- Whether the shares are off a hundred percent. -/
def isOff : Number → Bool
  | .int n => n != 100
  | .float x => decide (percentTolerance < (x - 100).abs)

/-- The leg, by its index, that needs a deposit which is not given. -/
def missingDeposit? (network : Network) (wraps : Option WrapTemplates) (legs : List Leg)
    (templates : List CallTemplate) : Option Nat :=
  match templates.findIdx? (·.needsWrap) with
  | none => none
  | some index =>
    match legs[index]? with
    | none => none
    | some leg =>
      if network.isNative leg.srcToken.text && (WrapTemplates.deposit? wraps).isNone then
        some index
      else none

/-- Refuses what cannot be compiled, and reports shares that are off. -/
def checkPreconditions (network : Network) (route : PriceRoute) (templates : List CallTemplate)
    (wraps : Option WrapTemplates) : Traced Unit :=
  match route.bestRoute with
  | [] => Traced.ofExcept (.error Refusal.emptyRoute)
  | best :: _ =>
    if best.legs.isEmpty then Traced.ofExcept (.error Refusal.emptyRoute)
    else if templates.length ≠ best.legs.length then
      Traced.ofExcept (.error (Refusal.misalignedTemplates templates.length best.legs.length))
    else do
      if isOff best.totalPercent then
        Traced.report (.percentagesOff best.totalPercent best.legs.length)
      match missingDeposit? network wraps best.legs templates with
      | some leg => Traced.ofExcept (.error (Refusal.missingDeposit leg))
      | none => pure ()

/-- The payload of a route. -/
def compile (network : Network) (route : PriceRoute) (templates : List CallTemplate)
    (sender : String) (wraps : Option WrapTemplates) : Traced Bytes := do
  checkPreconditions network route templates wraps
  let flags ← Classification.flags network wraps route.legs templates
  let ordered ← OrderedLeg.order route.legs templates flags
  let frames ← Assembly.legFrames network wraps ordered (List.range ordered.length)
  let body := frames.flatten
  let payload ← Payload.frame body
  Traced.report (.payloadBuilt .three (Address.normalize sender) ordered.length
    (ordered.countP (·.needsWrap)) body.length payload.length)
  return payload

end SwapCompiler.Compiler
