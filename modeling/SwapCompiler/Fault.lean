import SwapCompiler.Refusal
import SwapCompiler.Text.IntegerLiteral
import SwapCompiler.Text.Quoted

/-!
# Everything that can go wrong while a payload is compiled

A fault is either a refusal of the request or a value that the compiler cannot use at
all: an address or an amount that cannot be read, a number outside its range, lists of
different lengths. The service answers a refusal and treats any other fault as a failure
of its own.
-/

namespace SwapCompiler

/-- A reason why nothing was compiled. -/
inductive Fault
  | refused (reason : Refusal)
  /-- The text is no address. -/
  | invalidAddress (text : String)
  /-- The named constant is no address. -/
  | invalidConstant (name text : String)
  /-- The character at the position is no hexadecimal digit. -/
  | invalidHex (position : Nat)
  /-- The text is no integer. -/
  | invalidInteger (text : String)
  /-- The text is an integer of too many digits to be read. -/
  | integerTooLong (digits : Nat)
  /-- A header field of negative width was asked for. -/
  | negativeWidth
  /-- A header field of no bytes was asked for. -/
  | emptyField
  /-- A header field of more than 32 bytes was asked for. -/
  | fieldTooWide
  /-- An address that does not have 20 bytes was to be written. -/
  | addressLength
  /-- A number outside the unsigned 256-bit range was to be written. -/
  | wordOverflow
  /-- A percentage is not a number. -/
  | percentNotANumber
  /-- A percentage is infinite. -/
  | percentInfinite
  /-- Lists walked in step differ in length: the list in place `argument` is longer or
  shorter than those before it. -/
  | unevenLists (argument : Nat) (longer : Bool)
  /-- The text names no executor. -/
  | unknownExecutor (text : String)
  /-- The number is no call flag. -/
  | unknownFlag (value : Int)
  /-- There is no leg at the position. -/
  | noSuchLeg
  deriving DecidableEq, Repr

namespace Fault

instance : Coe Refusal Fault where
  coe := .refused

/-- The fault behind a text that is not an integer. -/
def ofLiteralError (text : String) : Text.LiteralError → Fault
  | .malformed => .invalidInteger text
  | .tooLong digits => .integerTooLong digits

/-- The places of the lists in front of the one at `argument`. -/
def earlierArguments (argument : Nat) : String :=
  if argument ≤ 2 then "argument 1" else s!"arguments 1-{argument - 1}"

/-- The wording of a fault. A quoted text is cut after 200 characters. -/
def message : Fault → String
  | .refused reason => reason.message
  | .invalidAddress text => "Invalid address: " ++ text
  | .invalidConstant name text =>
    s!"Invalid {name} address: {text} (must be 0x + 40 hex chars)"
  | .invalidHex position =>
    s!"non-hexadecimal number found in fromhex() arg at position {position}"
  | .invalidInteger text =>
    "invalid literal for int() with base 10: " ++
      String.ofList ((Text.quote text).toList.take 200)
  | .integerTooLong digits =>
    s!"Exceeds the limit (4300 digits) for integer string conversion: value has {digits} " ++
      "digits; use sys.set_int_max_str_digits() to increase the limit"
  | .negativeWidth => "negative shift count"
  | .emptyField => "a header field has at least one byte"
  | .fieldTooWide => "a header field has at most 32 bytes"
  | .addressLength => "an address has exactly 20 bytes"
  | .wordOverflow => "the number is outside the unsigned 256-bit range"
  | .percentNotANumber => "cannot convert NaN to integer"
  | .percentInfinite => "cannot convert Infinity to integer"
  | .unevenLists argument longer =>
    let relation := if longer then "longer" else "shorter"
    s!"zip() argument {argument} is {relation} than {earlierArguments argument}"
  | .unknownExecutor text => Text.quote text ++ " is not a valid Executors"
  | .unknownFlag value => s!"{value} is not a valid Flag"
  | .noSuchLeg => "list index out of range"

end Fault

end SwapCompiler
