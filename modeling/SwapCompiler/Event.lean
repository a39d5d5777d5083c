import SwapCompiler.Flag
import SwapCompiler.Json

/-!
# The log

What the compiler, the service and the command line report while they work. An event has
a name, a level and fields; the names and the fields are what readers of the log rely on.
-/

namespace SwapCompiler

/-- How urgent an event is. -/
inductive Level
  | debug
  | info
  | warning
  | error
  deriving DecidableEq, Repr

/-- The word for a level. -/
def Level.name : Level → String
  | .debug => "debug"
  | .info => "info"
  | .warning => "warning"
  | .error => "error"

/-- Something worth a line in the log. -/
inductive Event
  /-- The legs' shares do not add up to a hundred percent. -/
  | percentagesOff (totalPercent : Number) (legCount : Nat)
  /-- A leg has its frame. -/
  | legAssembled (position : Int) (target : String) (dexFlag : Flag) (percent : Float)
      (needWithdraw : Bool) (callDataSize : Nat) (isNativeDest : Bool)
  /-- A payload is complete. -/
  | payloadBuilt (executor : Executor) (sender : String)
      (legCount wrapLegCount bodySize payloadSize : Nat)
  /-- The service got a well-formed request. -/
  | requestReceived (executor : Executor) (legCount templateCount : Nat) (hasWrapCalls : Bool)
  /-- The service refuses a request. -/
  | requestRefused (executor : Executor) (reason : Refusal)
  /-- The service fails at a request. -/
  | requestFailed (executor : Executor) (legCount : Nat)
  /-- The command line finds no request file. -/
  | fileNotFound (path : String)
  /-- The command line cannot use what the request file holds. -/
  | fileInvalid (path : String)
  /-- The command line refuses a request. -/
  | fileRefused (reason : Refusal)

namespace Event

/-- The name of an event. -/
def name : Event → String
  | .percentagesOff .. => "leg_percentages_not_100"
  | .legAssembled .. => "leg_assembled"
  | .payloadBuilt .. => "bytecode_built"
  | .requestReceived .. => "received_build_request"
  | .requestRefused .. | .fileRefused _ => "bytecode_build_failed"
  | .requestFailed .. => "bytecode_build_error"
  | .fileNotFound _ => "request_file_not_found"
  | .fileInvalid _ => "invalid_request"

/-- The level of an event. -/
def level : Event → Level
  | .legAssembled .. => .debug
  | .payloadBuilt .. | .requestReceived .. => .info
  | .percentagesOff .. | .requestRefused .. => .warning
  | .requestFailed .. | .fileNotFound _ | .fileInvalid _ | .fileRefused _ => .error

/-- The fields of an event. -/
def fields : Event → Json.Fields
  | .percentagesOff totalPercent legCount =>
    [("total_percent", .num totalPercent), ("leg_count", .int legCount)]
  | .legAssembled position target dexFlag percent needWithdraw callDataSize isNativeDest =>
    [("position", .int position), ("target", .str target), ("dex_flag", .int dexFlag.toInt),
      ("percent", .float percent), ("need_withdraw", .bool needWithdraw),
      ("call_data_size", .int callDataSize), ("is_native_dest", .bool isNativeDest)]
  | .payloadBuilt executor sender legCount wrapLegCount bodySize payloadSize =>
    [("executor", .str executor.name), ("sender", .str sender), ("leg_count", .int legCount),
      ("wrap_leg_count", .int wrapLegCount), ("body_size", .int bodySize),
      ("payload_size", .int payloadSize)]
  | .requestReceived executor legCount templateCount hasWrapCalls =>
    [("executor", .str executor.name), ("leg_count", .int legCount),
      ("template_count", .int templateCount), ("has_weth_call_data", .bool hasWrapCalls)]
  | .requestRefused executor reason =>
    [("executor", .str executor.name), ("error_type", .str reason.kind.name),
      ("error", .str reason.message)]
  | .requestFailed executor legCount =>
    [("executor", .str executor.name), ("leg_count", .int legCount), ("exc_info", .bool true)]
  | .fileNotFound path | .fileInvalid path => [("path", .str path)]
  | .fileRefused reason =>
    [("error_type", .str reason.kind.name), ("error", .str reason.message)]

end Event

end SwapCompiler
