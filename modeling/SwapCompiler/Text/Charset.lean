import SwapCompiler.Text.CodePoint
import SwapCompiler.Text.Quoted

/-!
# Character sets

What texts that leave the program may hold. A text that holds more cannot be encoded; the
first run of code points that are not accepted stands in the way.
-/

namespace SwapCompiler.Text

/-- A set of code points with an encoding. -/
inductive Charset
  | ascii
  | utf8
  deriving DecidableEq, Repr

/-- What stands in the way of an encoding, and where. -/
structure Obstacle where
  charset : Charset
  position : Nat
  run : List CodePoint
  deriving DecidableEq, Repr

namespace Charset

/-- The name of the encoding. -/
def name : Charset → String
  | .ascii => "ascii"
  | .utf8 => "utf-8"

/-- Whether the set has the code point. -/
def accepts (charset : Charset) (point : CodePoint) : Bool :=
  match charset with
  | .ascii => point.toNat < 128
  | .utf8 => !point.isSurrogate

/-- What stands in the way of encoding the code points, if anything does. -/
def obstacle? (charset : Charset) (points : List CodePoint) : Option Obstacle :=
  let position := (points.takeWhile charset.accepts).length
  match points.drop position with
  | [] => none
  | rest => some ⟨charset, position, rest.takeWhile (!charset.accepts ·)⟩

/-- Why the set does not accept a code point. -/
def reason : Charset → String
  | .ascii => "ordinal not in range(128)"
  | .utf8 => "surrogates not allowed"

end Charset

/-- The wording of an obstacle. A code point alone is given by its number. -/
def Obstacle.message (obstacle : Obstacle) : String :=
  let what := match obstacle.run with
    | [point] =>
      let number := String.ofList (escapeNumber point.toNat)
      s!"character '{number}' in position {obstacle.position}"
    | run => s!"characters in position {obstacle.position}-{obstacle.position + run.length - 1}"
  s!"'{obstacle.charset.name}' codec can't encode {what}: {obstacle.charset.reason}"

end SwapCompiler.Text
