import SwapCompiler.Hex
import SwapCompiler.Text.Blank
import SwapCompiler.Text.DecimalDigit

/-!
# Integers written as text

A decimal literal is a run of digits of any script, with single underscores allowed
between digits, an optional sign in front and white space around it. A run of more than
4300 digits is refused, leading zeros included. A hexadecimal literal is the mark `0x`
and a run of digits, where an underscore may also stand right behind the mark.
-/

namespace SwapCompiler.Text

/-- Why a text is not an integer. -/
inductive LiteralError
  | malformed
  | tooLong (digits : Nat)
  deriving DecidableEq, Repr

/-- The longest run of digits that is read. -/
def maxLiteralDigits : Nat := 4300

/-- Reads a run of digits with single underscores between them. `afterUnderscore` says
that a digit has to follow, as it does at the start of the run; `read` holds the digits so
far in reverse. -/
def digitRun (digit? : Char → Option Nat) (afterUnderscore : Bool) (read : List Nat) :
    List Char → Option (List Nat × List Char)
  | [] => if afterUnderscore then none else some (read, [])
  | c :: rest =>
    if c = '_' then
      if afterUnderscore then none else digitRun digit? true read rest
    else match digit? c with
      | some digit => digitRun digit? false (digit :: read) rest
      | none => if afterUnderscore then none else some (read, c :: rest)

/-- The number with the given digits, least significant first. -/
def ofDigits (base : Nat) (digits : List Nat) : Nat :=
  digits.reverse.foldl (fun value digit => base * value + digit) 0

/-- Splits an optional sign from a text; `true` is a minus. -/
def splitSign : List Char → Bool × List Char
  | '+' :: rest => (false, rest)
  | '-' :: rest => (true, rest)
  | text => (false, text)

/-- Reads a decimal literal. -/
def readInteger (text : String) : Except LiteralError Int :=
  let (negative, body) := splitSign (text.toList.dropWhile isBlank)
  match digitRun decimalDigit? true [] body with
  | none => .error .malformed
  | some (digits, rest) =>
    if digits.length > maxLiteralDigits then .error (.tooLong digits.length)
    else if rest.all isBlank then
      let value : Int := ofDigits 10 digits
      .ok (if negative then -value else value)
    else .error .malformed

/-- The value of a hexadecimal digit: a decimal digit of any script, or a letter. -/
def hexadecimalDigit? (c : Char) : Option Nat :=
  (decimalDigit? c).or (Hex.digit? c)

/-- Whether the text behind a mark `0x` completes a hexadecimal literal. -/
def isHexadecimalBody (body : List Char) : Bool :=
  let body := match body with
    | '_' :: rest => rest
    | _ => body
  match digitRun hexadecimalDigit? true [] body with
  | none => false
  | some (_, rest) => rest.all isBlank

end SwapCompiler.Text
