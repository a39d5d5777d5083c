import SwapCompiler.Network

/-!
# Where the service listens

Host, port and reloading are taken from the environment. A port that is no integer stops
the service before it starts; any integer passes.
-/

namespace SwapCompiler

/-- Where the service listens, and whether it reloads when its files change. -/
structure Settings where
  host : String
  port : Int
  reload : Bool
  deriving DecidableEq, Repr

namespace Settings

/-- The words that turn reloading on, in lower case. -/
def affirmations : List String := ["true", "1", "yes"]

/-- The settings given by environment variables. -/
def ofEnvironment (environment : Environment) : Except Fault Settings :=
  let port := environment.get "EXECUTOR_PORT" "8000"
  match Text.readInteger port with
  | .error e => .error (Fault.ofLiteralError port e)
  | .ok number =>
    .ok {
      host := environment.get "EXECUTOR_HOST" "0.0.0.0"
      port := number
      reload := affirmations.contains (Text.lower (environment.get "EXECUTOR_DEBUG" "false")) }

end Settings

end SwapCompiler
