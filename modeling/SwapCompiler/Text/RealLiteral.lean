import SwapCompiler.Decimal.Notation
import SwapCompiler.Text.IntegerLiteral

/-!
# Numbers written as text in a request

Numbers may arrive as strings. A real literal has an optional sign and is `inf`,
`infinity` or `nan` in any case, or digits with an optional point and exponent. A whole
literal may have leading zeros and a fraction of zeros. White space around either is
skipped, and single underscores inside may be left out.
-/

namespace SwapCompiler.Text

/-- Whether the character is a digit of ASCII. -/
def isAsciiDigit (c : Char) : Bool :=
  '0' ≤ c && c ≤ '9'

/-- The number written by ASCII digits. -/
def asciiValue (digits : List Char) : Nat :=
  digits.foldl (fun value c => 10 * value + (c.toNat - '0'.toNat)) 0

/-- The text without its underscores, if there are some, all of them single and none at
either end. -/
def withoutUnderscores? (text : List Char) : Option (List Char) :=
  let rec adjacent : List Char → Bool
    | '_' :: '_' :: _ => true
    | _ :: rest => adjacent rest
    | [] => false
  if !text.contains '_' || text.head? = some '_' || text.getLast? = some '_' || adjacent text then
    none
  else some (text.filter (· ≠ '_'))

/-! ## Real literals -/

/-- The exponent that ends a literal: nothing, or a mark, an optional sign and digits. -/
def readPower? (text : List Char) : Option Int :=
  match text with
  | [] => some 0
  | mark :: rest =>
    let (negative, digits) := splitSign rest
    if (mark = 'e' || mark = 'E') && !digits.isEmpty && digits.all isAsciiDigit then
      let power : Int := asciiValue digits
      some (if negative then -power else power)
    else none

/-- The number of an unsigned literal of digits. -/
def readMagnitude? (negative : Bool) (text : List Char) : Option Float :=
  let whole := text.takeWhile isAsciiDigit
  let behind := text.dropWhile isAsciiDigit
  let (fraction, behind) := match behind with
    | '.' :: rest => (rest.takeWhile isAsciiDigit, rest.dropWhile isAsciiDigit)
    | _ => ([], behind)
  if whole.isEmpty && fraction.isEmpty then none
  else (readPower? behind).map fun power =>
    (Decimal.mk negative (asciiValue (whole ++ fraction)) (power - fraction.length)).toFloat

/-- The number of a real literal without white space or underscores. -/
def readPlainReal? (text : List Char) : Option Float :=
  let (negative, body) := splitSign text
  let word := String.ofList (body.map Char.toLower)
  if word = "inf" || word = "infinity" then
    some (if negative then -(1.0 / 0.0) else 1.0 / 0.0)
  else if word = "nan" then some (0.0 / 0.0)
  else readMagnitude? negative body

/-- The number of a real literal. Underscores are left out only where no white space
surrounds it. -/
def readReal? (text : String) : Option Float :=
  (readPlainReal? (trim text.toList)).or
    ((withoutUnderscores? text.toList).bind readPlainReal?)

/-! ## Whole literals -/

/-- Splits a minus from a text. -/
def splitMinus : List Char → Bool × List Char
  | '-' :: rest => (true, rest)
  | text => (false, text)

/-- The text from its first digit that is not a leading zero, or from its first minus;
`last` is the character before it. A zero stays in front of a point or at the end. -/
def dropZeros? (last : Char) : List Char → Option (List Char)
  | [] => some [last]
  | c :: rest =>
    if c = '0' || c = '_' then dropZeros? c rest
    else if isAsciiDigit c || c = '-' then some (c :: rest)
    else if c = '.' then some (last :: c :: rest)
    else none

/-- The text without leading zeros. It has to start with a digit or a minus. -/
def withoutLeadingZeros? : List Char → Option (List Char)
  | '0' :: rest => dropZeros? '0' rest
  | c :: rest => if isAsciiDigit c || c = '-' then some (c :: rest) else none
  | [] => none

/-- The text without a fraction, if that is a point and at least one zero. -/
def withoutZeroFraction (text : List Char) : List Char :=
  match text.dropWhile (· ≠ '.') with
  | '.' :: digits =>
    if !digits.isEmpty && digits.all (· = '0') then text.takeWhile (· ≠ '.') else text
  | _ => text

/-- The text without a plus in front; there must be no minus behind it. -/
def withoutPlus? : List Char → Option (List Char)
  | '+' :: '-' :: _ => none
  | '+' :: rest => some rest
  | text => some text

/-- The text without all that a plain literal does not have: white space around it, a
plus, leading zeros, a fraction of zeros, underscores. -/
def plainWhole? (text : List Char) : Option (List Char) := do
  let (negative, body) := splitMinus (← withoutPlus? (trim text))
  let body := withoutZeroFraction (← withoutLeadingZeros? body)
  let body := (withoutUnderscores? body).getD body
  return if negative then '-' :: body else body

/-- Reads an optional minus and at most 4300 digits without leading zeros. -/
def readPlainWhole? (text : List Char) : Option Int :=
  let (negative, digits) := splitMinus text
  if digits.isEmpty || !digits.all isAsciiDigit || (digits.head? = some '0' && digits.length ≠ 1)
      || maxLiteralDigits < digits.length then none
  else
    let value : Int := asciiValue digits
    some (if negative then -value else value)

/-- How many digits the text starts with behind an optional minus; none if the first is a
zero. -/
def leadingDigits (text : List Char) : Nat :=
  let digits := (splitMinus text).2.takeWhile isAsciiDigit
  if digits.head? = some '0' then 0 else digits.length

/-- The number of a whole literal. A text that starts with a number of too many digits is
too long whatever follows; one that is too long only when the rest is taken away is
malformed. -/
def readWhole (text : String) : Except LiteralError Int :=
  let digits := leadingDigits text.toList
  if maxLiteralDigits < digits then .error (.tooLong digits)
  else match (plainWhole? text.toList).bind readPlainWhole? with
    | some value => .ok value
    | none => .error .malformed

end SwapCompiler.Text
