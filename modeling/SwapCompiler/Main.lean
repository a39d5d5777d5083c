import SwapCompiler.CommandLine

/-!
# The program

The outer layer of the command line: it gathers the environment and the request file,
runs the command line on them, and puts out what that gives. Events and failures go to
the error stream.
-/

namespace SwapCompiler.CommandLine

/-- The variables of the environment that matter. -/
def environmentNames : List String :=
  ["EXECUTOR_WRAPPED_NATIVE_TOKEN", "EXECUTOR_NATIVE_TOKEN", "EXECUTOR_RECEIVER_ADDRESS",
    "EXECUTOR_03_ADDRESS"]

/-- The environment of the process. -/
def processEnvironment : IO Environment :=
  environmentNames.filterMapM fun name => do
    return (← IO.getEnv name).map fun value => (name, value)

/-- The text of a file that can be read. -/
def fileText? (path : String) : IO (Option String) := do
  try
    return some (← IO.FS.readFile path)
  catch _ =>
    return none

/-- An event as a line of the log. -/
def logLine (event : Event) : String :=
  event.level.name ++ " " ++ event.name ++ " " ++ (Json.obj event.fields).write

/-- A failure as a line. -/
def crashLine : Crash → String
  | .unreadable _ => "the request file cannot be read"
  | .fault fault => fault.message
  | .response violations => (Json.arr (violations.map Violation.toJson)).write
  | .unwritable obstacle => obstacle.message

end SwapCompiler.CommandLine

open SwapCompiler CommandLine

/-- Runs the command line. -/
def main (words : List String) : IO UInt32 := do
  let environment ← processEnvironment
  let text? ← match Invocation.ofWords words with
    | .run options => fileText? options.path
    | _ => pure none
  let program := (← IO.appPath).fileName.getD "compile"
  let report := CommandLine.run program environment (fun _ => text?) words
  for event in report.events do
    IO.eprintln (logLine event)
  IO.print report.output
  match report.outcome with
  | .ok code => return .ofNat code
  | .error crash =>
    IO.eprintln (crashLine crash)
    return 1
