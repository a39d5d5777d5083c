import SwapCompiler.CallTemplate
import SwapCompiler.Flag
import SwapCompiler.Route

/-!
# The order in which legs are assembled

Legs run in parallel, so their order is free. Those that need the wrapped native token go
behind all others, in their own order, so that the last leg can withdraw what is left of
it. A leg travels with its template and its flags.
-/

namespace SwapCompiler

/-- A leg with its call template and its flags. -/
structure OrderedLeg where
  leg : Leg
  template : CallTemplate
  flags : LegFlags

namespace OrderedLeg

/-- Whether the leg needs the wrapped native token. -/
def needsWrap (ordered : OrderedLeg) : Bool := ordered.template.needsWrap

/-- The legs with their templates and flags. Where the lists differ in length, the first
list to be found longer or shorter than those before it is reported. -/
def join : List Leg → List CallTemplate → List LegFlags → Except Fault (List OrderedLeg)
  | [], [], [] => .ok []
  | [], _ :: _, _ => .error (.unevenLists 2 true)
  | [], [], _ :: _ => .error (.unevenLists 3 true)
  | _ :: _, [], _ => .error (.unevenLists 2 false)
  | _ :: _, _ :: _, [] => .error (.unevenLists 3 false)
  | leg :: legs, template :: templates, flags :: rest =>
    (join legs templates rest).map (⟨leg, template, flags⟩ :: ·)

/-- The legs that need no wrapping, then those that do. -/
def arrange (legs : List OrderedLeg) : List OrderedLeg :=
  legs.filter (!·.needsWrap) ++ legs.filter (·.needsWrap)

/-- The legs in the order of assembly. -/
def order (legs : List Leg) (templates : List CallTemplate) (flags : List LegFlags) :
    Except Fault (List OrderedLeg) :=
  (join legs templates flags).map arrange

end OrderedLeg

end SwapCompiler
