import SwapCompiler.Json
import SwapCompiler.Text.IntegerLiteral

/-!
# Reading JSON text

The reader takes the text apart code point by code point and counts positions from zero.
It accepts `NaN`, `Infinity` and `-Infinity` as numbers, refuses control characters inside
strings, and gives up at the first fault with its cause and position. A whole number has
at most 4300 digits, and values nest at most `maxNesting` deep. Two escapes of surrogates
that form a pair stand for one character; a surrogate without a partner stays in the
string, whether it is escaped or not.

The functions that read strings and values recurse on a step budget. `readPoints` sets it
to one more than the number of code points, which is enough, as every step consumes one.
-/

namespace SwapCompiler.Json

/-- What was wrong with the text. -/
inductive Reader.Cause
  | expectedValue
  | expectedName
  | expectedColon
  | expectedComma
  | controlCharacter
  | unterminatedString
  | invalidEscape
  | invalidUnicodeEscape
  | trailingText
  | byteOrderMark
  deriving DecidableEq, Repr

/-- Why a text could not be read. -/
inductive ReadError
  | malformed (cause : Reader.Cause) (position : Nat)
  | integerTooLong (digits : Nat)
  | tooDeep (inObject : Bool)
  deriving DecidableEq, Repr

namespace Reader

open Text

/-- A value read, the position behind it and the text from there on. -/
abbrev Result (α : Type) := Except ReadError (α × Nat × List CodePoint)

/-- The deepest nesting of arrays and objects. -/
def maxNesting : Nat := 960

/-- The characters that may stand between tokens. -/
def isSpace (c : Char) : Bool :=
  c = ' ' || c = '\t' || c = '\n' || c = '\r'

/-- Skips the characters between tokens. -/
def skipSpace (position : Nat) : List CodePoint → Nat × List CodePoint
  | [] => (position, [])
  | point :: rest =>
    if point.isChar isSpace then skipSpace (position + 1) rest else (position, point :: rest)

/-! ## Strings -/

/-- The character behind a backslash, if the escape has one letter. -/
def shortEscape? (c : Char) : Option Char :=
  match c with
  | '"' => some '"'
  | '\\' => some '\\'
  | '/' => some '/'
  | 'b' => some '\x08'
  | 'f' => some '\x0c'
  | 'n' => some '\n'
  | 'r' => some '\r'
  | 't' => some '\t'
  | _ => none

/-- The unit written by four hexadecimal digits. -/
def fourDigits? (a b c d : CodePoint) : Option UInt16 := do
  let a ← Hex.digit? (← a.char?)
  let b ← Hex.digit? (← b.char?)
  let c ← Hex.digit? (← c.char?)
  let d ← Hex.digit? (← d.char?)
  return .ofNat (4096 * a + 256 * b + 16 * c + d)

/-- What a numbered escape of a unit, whose backslash is at `position`, and the text behind
it stand for: the code point, how many were consumed, and the rest. An escape of a leading
surrogate looks for its partner in a second escape, which counts only if something follows
it. -/
def numberedEscape (position : Nat) (unit : UInt16) (rest : List CodePoint) :
    Except ReadError (CodePoint × Nat × List CodePoint) :=
  match rest with
  | .char '\\' :: .char 'u' :: a :: b :: c :: d :: next :: behind =>
    if CodePoint.isLeading unit then
      match fourDigits? a b c d with
      | none => .error (.malformed .invalidUnicodeEscape (position + 7))
      | some trailing =>
        match CodePoint.ofPair? unit trailing with
        | some paired => .ok (.char paired, 12, next :: behind)
        | none => .ok (.ofUnit unit, 6, rest)
    else .ok (.ofUnit unit, 6, rest)
  | _ => .ok (.ofUnit unit, 6, rest)

/-- Reads an escape whose backslash is at `position` and has `rest` behind it, in a string
that starts at `start`. Something has to follow a numbered escape. -/
def escape (start position : Nat) (rest : List CodePoint) :
    Except ReadError (CodePoint × Nat × List CodePoint) :=
  match rest with
  | [] => .error (.malformed .unterminatedString start)
  | .char 'u' :: a :: b :: c :: d :: next :: behind =>
    match fourDigits? a b c d with
    | none => .error (.malformed .invalidUnicodeEscape (position + 1))
    | some unit => numberedEscape position unit (next :: behind)
  | .char 'u' :: _ => .error (.malformed .invalidUnicodeEscape (position + 1))
  | point :: behind =>
    match point.char?.bind shortEscape? with
    | none => .error (.malformed .invalidEscape position)
    | some escaped => .ok (.char escaped, 2, behind)

/-- Reads the rest of a string whose opening quotation mark is at `start`; `read` holds
the code points so far in reverse. -/
def string (start : Nat) :
    (budget position : Nat) → (read text : List CodePoint) → Result JsonString
  | 0, _, _, _ => .error (.malformed .unterminatedString start)
  | _, _, _, [] => .error (.malformed .unterminatedString start)
  | budget + 1, position, read, point :: rest =>
    if point = .char '"' then .ok (.ofPoints read.reverse, position + 1, rest)
    else if point = .char '\\' then
      match escape start position rest with
      | .error e => .error e
      | .ok (escaped, length, behind) =>
        string start budget (position + length) (escaped :: read) behind
    else if point.toNat < 0x20 then .error (.malformed .controlCharacter position)
    else string start budget (position + 1) (point :: read) rest

/-! ## Numbers -/

/-- Whether the character is a digit of ASCII. -/
def isDigit (c : Char) : Bool :=
  '0' ≤ c && c ≤ '9'

/-- The characters that a number is made of. -/
def isNumeral (c : Char) : Bool :=
  isDigit c || c = '-' || c = '+' || c = '.' || c = 'e' || c = 'E'

/-- The characters from the start of the text on that a number could be made of. -/
def numerals (text : List CodePoint) : List Char :=
  (text.takeWhile (·.isChar isNumeral)).filterMap CodePoint.char?

/-- The value of a run of digits. -/
def digitsValue (digits : List Char) : Nat :=
  digits.foldl (fun value c => 10 * value + (c.toNat - '0'.toNat)) 0

/-- The whole part of a number: a zero alone, or digits that start with no zero. -/
def wholePart (text : List Char) : List Char :=
  match text with
  | [] => []
  | c :: _ => if c = '0' then ['0'] else text.takeWhile isDigit

/-- The digits behind a point, if a point and at least one digit are there. -/
def fractionPart (text : List Char) : List Char :=
  match text with
  | '.' :: rest => rest.takeWhile isDigit
  | _ => []

/-- The sign and the digits of an exponent, and how many characters they take with their
mark; none if there is no mark or no digit. -/
def exponentPart? (text : List Char) : Option (Bool × List Char × Nat) :=
  match text with
  | mark :: rest =>
    if mark = 'e' ∨ mark = 'E' then
      let (negative, digits) := splitSign rest
      let digits := digits.takeWhile isDigit
      let marks := if rest.head? = some '+' || rest.head? = some '-' then 2 else 1
      if digits.isEmpty then none
      else some (negative, digits, marks + digits.length)
    else none
  | [] => none

/-- The number that the characters start with, and how many of them it takes. -/
def numberOf (position : Nat) (text : List Char) : Except ReadError (Json × Nat) :=
  let (negative, body) := match text with
    | '-' :: rest => (true, rest)
    | _ => (false, text)
  let whole := wholePart body
  if whole.isEmpty then .error (.malformed .expectedValue position)
  else
    let afterWhole := body.drop whole.length
    let fraction := fractionPart afterWhole
    let fractionLength := if fraction.isEmpty then 0 else fraction.length + 1
    let afterFraction := afterWhole.drop fractionLength
    let signLength := if negative then 1 else 0
    let length := signLength + whole.length + fractionLength
    match exponentPart? afterFraction with
    | some (minus, digits, exponentLength) =>
      let power : Int := digitsValue digits
      let decimal : Decimal := ⟨negative, digitsValue (whole ++ fraction),
        (if minus then -power else power) - fraction.length⟩
      .ok (.float decimal.toFloat, length + exponentLength)
    | none =>
      if fraction.isEmpty then
        if whole.length > maxLiteralDigits then .error (.integerTooLong whole.length)
        else
          let value : Int := digitsValue whole
          .ok (.int (if negative then -value else value), length)
      else
        let decimal : Decimal := ⟨negative, digitsValue (whole ++ fraction), -fraction.length⟩
        .ok (.float decimal.toFloat, length)

/-- Reads a number at `position`. -/
def number (position : Nat) (text : List CodePoint) : Result Json :=
  match numberOf position (numerals text) with
  | .error e => .error e
  | .ok (json, length) => .ok (json, position + length, text.drop length)

/-! ## Values -/

/-- The infinite number of the given sign. -/
def infinity (negative : Bool) : Json :=
  .float (if negative then -(1.0 / 0.0) else 1.0 / 0.0)

/-- The words that stand for values. -/
def words : List (List CodePoint × Json) :=
  [("null", .null), ("true", .bool true), ("false", .bool false), ("NaN", .float (0.0 / 0.0)),
    ("Infinity", infinity false), ("-Infinity", infinity true)].map
    fun (word, json) => (word.toList.map .char, json)

/-- Reads a word or a number at `position`. -/
def atom (position : Nat) (text : List CodePoint) : Result Json :=
  match words.find? fun (word, _) => word.isPrefixOf text with
  | some (word, json) => .ok (json, position + word.length, text.drop word.length)
  | none => number position text

mutual

/-- Reads a value at `position`; `depth` is how much deeper values may nest. -/
def value (depth : Nat) : (budget position : Nat) → (text : List CodePoint) → Result Json
  | 0, position, _ => .error (.malformed .expectedValue position)
  | budget + 1, position, text =>
    match text with
    | .char '"' :: rest =>
      match string position budget (position + 1) [] rest with
      | .ok (text, position, rest) => .ok (.str text, position, rest)
      | .error e => .error e
    | .char '{' :: rest =>
      match depth with
      | 0 => .error (.tooDeep true)
      | depth + 1 =>
        match skipSpace (position + 1) rest with
        | (position, .char '}' :: rest) => .ok (.obj [], position + 1, rest)
        | (position, rest) => fields depth budget position [] rest
    | .char '[' :: rest =>
      match depth with
      | 0 => .error (.tooDeep false)
      | depth + 1 =>
        match skipSpace (position + 1) rest with
        | (position, .char ']' :: rest) => .ok (.arr [], position + 1, rest)
        | (position, rest) => items depth budget position [] rest
    | text => atom position text
  termination_by structural budget => budget

/-- Reads the items of an array from one on; `read` holds those before it in reverse. -/
def items (depth : Nat) :
    (budget position : Nat) → (read : List Json) → (text : List CodePoint) → Result Json
  | 0, position, _, _ => .error (.malformed .expectedValue position)
  | budget + 1, position, read, text =>
    match value depth budget position text with
    | .error e => .error e
    | .ok (item, position, rest) =>
      match skipSpace position rest with
      | (position, .char ']' :: rest) => .ok (.arr (item :: read).reverse, position + 1, rest)
      | (position, .char ',' :: rest) =>
        let (position, rest) := skipSpace (position + 1) rest
        items depth budget position (item :: read) rest
      | (position, _) => .error (.malformed .expectedComma position)
  termination_by structural budget => budget

/-- Reads the fields of an object from one on; `read` holds those before it in reverse. -/
def fields (depth : Nat) :
    (budget position : Nat) → (read : Fields) → (text : List CodePoint) → Result Json
  | 0, position, _, _ => .error (.malformed .expectedName position)
  | budget + 1, position, read, text =>
    match text with
    | .char '"' :: rest =>
      match string position budget (position + 1) [] rest with
      | .error e => .error e
      | .ok (name, position, rest) =>
        match skipSpace position rest with
        | (position, .char ':' :: rest) =>
          let (position, rest) := skipSpace (position + 1) rest
          match value depth budget position rest with
          | .error e => .error e
          | .ok (item, position, rest) =>
            match skipSpace position rest with
            | (position, .char '}' :: rest) =>
              .ok (.obj ((name, item) :: read).reverse, position + 1, rest)
            | (position, .char ',' :: rest) =>
              let (position, rest) := skipSpace (position + 1) rest
              fields depth budget position ((name, item) :: read) rest
            | (position, _) => .error (.malformed .expectedComma position)
        | (position, _) => .error (.malformed .expectedColon position)
    | _ => .error (.malformed .expectedName position)
  termination_by structural budget => budget

end

end Reader

/-- Reads code points that make up one value and nothing else but space. A byte order mark
is not skipped. -/
def readPoints (text : List Text.CodePoint) : Except ReadError Json :=
  match text with
  | .char '\uFEFF' :: _ => .error (.malformed .byteOrderMark 0)
  | _ =>
    let (position, start) := Reader.skipSpace 0 text
    match Reader.value Reader.maxNesting start.length.succ position start with
    | .error e => .error e
    | .ok (json, position, rest) =>
      match Reader.skipSpace position rest with
      | (_, []) => .ok json
      | (position, _ :: _) => .error (.malformed .trailingText position)

/-- Reads a text that holds one value and nothing else but space. -/
def read (text : String) : Except ReadError Json :=
  readPoints (text.toList.map .char)

end SwapCompiler.Json
