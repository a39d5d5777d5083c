import SwapCompiler.Event

/-!
# Runs that leave a trace

A run reports events in order and ends in a value or a fault. The events up to a fault
stay in the trace.
-/

namespace SwapCompiler

/-- The events of a run and how it ended. -/
structure Traced (α : Type) where
  events : List Event
  outcome : Except Fault α

namespace Traced

/-- A run without events. -/
def ofExcept {α : Type} (outcome : Except Fault α) : Traced α := ⟨[], outcome⟩

/-- A run that reports one event. -/
def report (event : Event) : Traced Unit := ⟨[event], .ok ()⟩

/-- Continues a run with its value; a fault ends it. -/
def andThen {α β : Type} (run : Traced α) (next : α → Traced β) : Traced β :=
  match run.outcome with
  | .error fault => ⟨run.events, .error fault⟩
  | .ok value =>
    let rest := next value
    ⟨run.events ++ rest.events, rest.outcome⟩

instance : Monad Traced where
  pure value := ⟨[], .ok value⟩
  bind := andThen

instance : MonadLift (Except Fault) Traced where
  monadLift := ofExcept

end Traced

end SwapCompiler
