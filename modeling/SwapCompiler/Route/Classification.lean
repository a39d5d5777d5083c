import SwapCompiler.CallTemplate
import SwapCompiler.Flag
import SwapCompiler.Network
import SwapCompiler.Route

/-!
# Flags of the legs

The only leg of a route gets its flag from what it sells and buys: it sends native value,
checks the native balance, checks the balance of the destination token, or does nothing
special. Legs that run side by side carry their literal amounts and get no flag at all.
-/

namespace SwapCompiler.Classification

/-- The flags of the only leg of a route. -/
def single (network : Network) (wraps : Option WrapTemplates) (leg : Leg)
    (template : CallTemplate) : LegFlags :=
  let nativeSrc := network.isNative leg.srcToken.text
  let nativeDest := network.isNative leg.destToken.text
  let wrapped := template.needsWrap && nativeSrc && (WrapTemplates.deposit? wraps).isSome
  let unwrapped := template.needsWrap && nativeDest && (WrapTemplates.withdraw? wraps).isSome
  if nativeSrc && !wrapped then ⟨5, 0⟩
  else if nativeDest && !unwrapped then ⟨4, 0⟩
  else if !template.hasRecipient || (nativeDest && unwrapped) then ⟨8, 0⟩
  else ⟨0, 0⟩

/-- The flags of a leg that runs beside others. -/
def parallel (_network : Network) (_wraps : Option WrapTemplates) (_leg : Leg)
    (_template : CallTemplate) : LegFlags :=
  ⟨0, 0⟩

/-- Pairs two lists; where they differ in length, the second is found longer or shorter. -/
def pair {α β : Type} : List α → List β → Except Fault (List (α × β))
  | [], [] => .ok []
  | [], _ :: _ => .error (.unevenLists 2 true)
  | _ :: _, [] => .error (.unevenLists 2 false)
  | a :: as, b :: bs => (pair as bs).map ((a, b) :: ·)

/-- The flags of all legs, in the order of the legs. -/
def flags (network : Network) (wraps : Option WrapTemplates) (legs : List Leg)
    (templates : List CallTemplate) : Except Fault (List LegFlags) :=
  let classify := if legs.length = 1 then single network wraps else parallel network wraps
  (pair legs templates).map (·.map fun (leg, template) => classify leg template)

end SwapCompiler.Classification
