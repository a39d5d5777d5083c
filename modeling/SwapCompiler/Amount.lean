import SwapCompiler.Abi
import SwapCompiler.Json

/-!
# Token amounts

An amount is kept as the text it was given in and read when it is needed. It is accepted
as a whole number or as a decimal literal between zero and the largest 256-bit number. A
truth value counts as a whole number and keeps its own spelling, which later reads as no
integer.
-/

namespace SwapCompiler.Amount

/-- Why a value is no amount. -/
inductive Error
  | wrongType (type : String)
  | notDecimal (text : JsonString)
  | negative (shown : String)
  | tooLarge (shown : String)
  deriving DecidableEq, Repr

/-- The wording of an error. -/
def Error.message : Error → JsonString
  | .wrongType type => "Uint256 must be string or int, got " ++ type
  | .notDecimal text => .append "Uint256 must be a decimal integer string: '" (.append text "'")
  | .negative shown => "Uint256 cannot be negative: " ++ shown
  | .tooLarge shown => "Uint256 overflow: " ++ shown ++ " > 2^256-1"

/-- The text of a value within range. -/
def checkRange (value : Int) (shown : String) : Except Error String :=
  if value < 0 then .error (.negative shown)
  else if (Abi.maxWord : Int) < value then .error (.tooLarge shown)
  else .ok shown

/-- The text under which a value is kept, if it is an amount. -/
def check : Json → Except Error String
  | .bool b => checkRange (if b then 1 else 0) (if b then "True" else "False")
  | .num (.int n) => checkRange n (toString n)
  | .str (.unicode text) =>
    match Text.readInteger text with
    | .ok value => checkRange value text
    | .error _ => .error (.notDecimal text)
  | .str text => .error (.notDecimal text)
  | .num (.float _) => .error (.wrongType "float")
  | .null => .error (.wrongType "NoneType")
  | .arr _ => .error (.wrongType "list")
  | .obj _ => .error (.wrongType "dict")

/-- The number that the text of an amount stands for. -/
def value (text : String) : Except Fault Int :=
  match Text.readInteger text with
  | .ok value => .ok value
  | .error e => .error (Fault.ofLiteralError text e)

end SwapCompiler.Amount
