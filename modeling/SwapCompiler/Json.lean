import SwapCompiler.Decimal.Notation
import SwapCompiler.JsonString

/-!
# JSON values

A number without point and exponent is a whole number of any size; any other is a
binary64 number, and the two differ even when their values agree. The fields of an object
keep their order; of a repeated name the last field counts.
-/

namespace SwapCompiler

/-- A number, whole or binary64. -/
inductive Number
  | int (n : Int)
  | float (x : Float)

/-- A JSON value. -/
inductive Json
  | null
  | bool (b : Bool)
  | num (n : Number)
  | str (text : JsonString)
  | arr (items : List Json)
  | obj (fields : List (JsonString × Json))

namespace Number

instance : Inhabited Number where
  default := .int 0

/-- The number as text. -/
def write : Number → String
  | .int n => toString n
  | .float x => (Binary64.ofFloat x).write

/-- Whether the number is finite. -/
def isFinite : Number → Bool
  | .int _ => true
  | .float x => x.isFinite

/-- The sum: exact for whole numbers, otherwise rounded to binary64. -/
def add : Number → Number → Number
  | .int m, .int n => .int (m + n)
  | .int m, .float y => .float (Float.ofInt m + y)
  | .float x, .int n => .float (x + Float.ofInt n)
  | .float x, .float y => .float (x + y)

instance : Add Number where
  add := add

end Number

namespace Json

instance : Inhabited Json where
  default := .null

/-- The fields of an object. -/
abbrev Fields := List (JsonString × Json)

/-- A whole number. -/
def int (n : Int) : Json := .num (.int n)

/-- A binary64 number. -/
def float (x : Float) : Json := .num (.float x)

/-- The value of the last field with the given name. -/
def lookup (fields : Fields) (name : String) : Option Json :=
  fields.foldl (fun found (key, value) => if key == .unicode name then some value else found) none

end Json

end SwapCompiler
