import SwapCompiler.Hex
import SwapCompiler.Text.Unprintable

/-!
# Quotation of a text in a message

A quoted text stands between apostrophes, or between quotation marks when it holds an
apostrophe and no quotation mark. Backslash, line feed, carriage return, tab and the
quote itself are escaped by a backslash; any other unprintable character is given by its
number, in two, four or eight hexadecimal digits.
-/

namespace SwapCompiler.Text

/-- The `width` low hexadecimal digits of a number. -/
def hexDigits : (width value : Nat) → List Char
  | 0, _ => []
  | width + 1, value => hexDigits width (value / 16) ++ [Hex.digitOf (value % 16)]

/-- A code point given by its number, in two, four or eight hexadecimal digits. -/
def escapeNumber (point : Nat) : List Char :=
  if point < 0x100 then '\\' :: 'x' :: hexDigits 2 point
  else if point < 0x10000 then '\\' :: 'u' :: hexDigits 4 point
  else '\\' :: 'U' :: hexDigits 8 point

/-- One character inside a quotation closed by `mark`. -/
def quoteChar (mark c : Char) : List Char :=
  if c = mark || c = '\\' then ['\\', c]
  else if c = '\n' then ['\\', 'n']
  else if c = '\r' then ['\\', 'r']
  else if c = '\t' then ['\\', 't']
  else if isPrintable c then [c]
  else escapeNumber c.toNat

/-- The mark that closes a quotation of the text. -/
def quoteMark (text : List Char) : Char :=
  if text.contains '\'' && !text.contains '"' then '"' else '\''

/-- The text in quotation. -/
def quote (text : String) : String :=
  let mark := quoteMark text.toList
  String.ofList (mark :: (text.toList.flatMap (quoteChar mark) ++ [mark]))

end SwapCompiler.Text
