import SwapCompiler.CommandLine.Arguments
import SwapCompiler.Json.Reader
import SwapCompiler.Json.Writer
import SwapCompiler.Request

/-!
# The command line

The command line compiles the request in a file and prints the payload, or the response
as indented JSON. It ends with 0 for a payload, 1 for a missing file, a file that holds no
request or a refused request, and 2 for a command line that is misused. Anything else that
goes wrong is not handled and ends the program.
-/

namespace SwapCompiler.CommandLine

/-- What ends the program without being handled. -/
inductive Crash
  /-- The request file cannot be read as JSON, and not because its text is malformed. -/
  | unreadable (error : Json.ReadError)
  /-- The configuration or the request cannot be used. -/
  | fault (fault : Fault)
  /-- The response has not the form of one. -/
  | response (violations : List Violation)
  /-- What is wrong with the request cannot be written to the log. -/
  | unwritable (obstacle : Text.Obstacle)

/-- How a run ended, what it printed and what it logged. -/
structure Report where
  /-- The exit code, unless something was not handled. -/
  outcome : Except Crash Nat
  output : String
  events : List Event

namespace Report

/-- A run with nothing to print. -/
def exit (code : Nat) (events : List Event) : Report := ⟨.ok code, "", events⟩

/-- A run that printed a line. -/
def printed (line : String) (events : List Event) : Report := ⟨.ok 0, line ++ "\n", events⟩

/-- A run that something ended. -/
def crash (cause : Crash) (events : List Event) : Report := ⟨.error cause, "", events⟩

end Report

/-! ## Help -/

/-- The help text of the program with the given name. -/
def help (program : String) : String :=
  "usage: " ++ program ++ " [-h] [--json] [--verbose] request\n" ++
  "\n" ++
  "Compile a route into executor bytecode\n" ++
  "\n" ++
  "positional arguments:\n" ++
  "  request        Path to a build request JSON file\n" ++
  "\n" ++
  "options:\n" ++
  "  -h, --help     show this help message and exit\n" ++
  "  --json         Print the full response (bytecode + executor address) as JSON\n" ++
  "  --verbose, -v  Enable verbose logging\n"

/-! ## Compiling -/

/-- Prints the payload of a request. -/
def print (network : Network) (request : Request) (payload : Bytes) (json : Bool)
    (events : List Event) : Report :=
  if json then
    match network.executorAddress request.executor with
    | .error fault => .crash (.fault fault) events
    | .ok address =>
      match Response.make payload request.executor address with
      | .valid response => .printed (response.toJson .wire).writeIndented events
      | .invalid violations => .crash (.response violations) events
  else .printed (Hex.encode payload) events

/-- Compiles a request and prints its payload. -/
def compile (environment : Environment) (request : Request) (json : Bool) : Report :=
  match Network.ofEnvironment environment with
  | .error fault => .crash (.fault fault) []
  | .ok network =>
    let run := request.compile network
    match run.outcome with
    | .ok payload => print network request payload json run.events
    | .error (.refused reason) => .exit 1 (run.events ++ [.fileRefused reason])
    | .error fault => .crash (.fault fault) run.events

/-- Compiles what the request file holds. Violations are written to the log, if that is
possible. -/
def compileJson (environment : Environment) (path : String) (content : Json) (json : Bool) :
    Report :=
  match Request.ofJson content with
  | .invalid violations =>
    match violations.findSome? Violation.obstacle? with
    | some obstacle => .crash (.unwritable obstacle) []
    | none => .exit 1 [.fileInvalid path]
  | .valid request => compile environment request json

/-- Compiles the text of the request file. -/
def compileText (environment : Environment) (path text : String) (json : Bool) : Report :=
  match Json.read text with
  | .error (.malformed ..) => .exit 1 [.fileInvalid path]
  | .error error => .crash (.unreadable error) []
  | .ok content => compileJson environment path content json

/-! ## The whole run -/

/-- Whether an event is shown. Only warnings and errors are, unless all are asked for. -/
def isShown (verbose : Bool) (event : Event) : Bool :=
  verbose || match event.level with
    | .debug | .info => false
    | .warning | .error => true

/-- The run for the given options; `file?` gives the texts of the files that exist. -/
def runOptions (environment : Environment) (file? : String → Option String)
    (options : Options) : Report :=
  let report := match file? options.path with
    | none => Report.exit 1 [.fileNotFound options.path]
    | some text => compileText environment options.path text options.json
  { report with events := report.events.filter (isShown options.verbose) }

/-- The run for the words of a command line. -/
def run (program : String) (environment : Environment) (file? : String → Option String)
    (words : List String) : Report :=
  match Invocation.ofWords words with
  | .help => ⟨.ok 0, help program, []⟩
  | .misused => .exit 2 []
  | .run options => runOptions environment file? options

end SwapCompiler.CommandLine
