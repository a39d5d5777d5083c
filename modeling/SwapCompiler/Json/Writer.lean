import SwapCompiler.Json

/-!
# Writing JSON text

`write` puts a value on one line without spaces; `writeIndented` puts every field and item
on a line of its own. Strings keep all characters but quotation marks, backslashes and
control characters; surrogates are escaped, and numbers that are not finite are written as
the reader takes them. Both writers extend a text that is already there.
-/

namespace SwapCompiler.Json

namespace Writer

/-- The escape of a code point of at most four hexadecimal digits. -/
def numbered (point : Nat) : String :=
  "\\u" ++ String.ofList (Text.hexDigits 4 point)

/-- A character inside a string. -/
def escape (c : Char) : String :=
  if c = '"' then "\\\""
  else if c = '\\' then "\\\\"
  else if c = '\n' then "\\n"
  else if c = '\r' then "\\r"
  else if c = '\t' then "\\t"
  else if c = '\x08' then "\\b"
  else if c = '\x0c' then "\\f"
  else if c.toNat < 0x20 then numbered c.toNat
  else String.singleton c

/-- A code point inside a string. -/
def escapePoint : Text.CodePoint → String
  | .char c => escape c
  | .surrogate offset => numbered (Text.CodePoint.surrogate offset).toNat

/-- A string between quotation marks, behind `out`. -/
def string (out : String) (string : JsonString) : String :=
  (string.points.foldl (fun out point => out ++ escapePoint point) (out.push '"')).push '"'

/-- A number. -/
def number : Number → String
  | .int n => toString n
  | .float x => match Binary64.ofFloat x with
    | .notANumber => "NaN"
    | .infinite negative => if negative then "-Infinity" else "Infinity"
    | finite => finite.write

mutual

/-- A value behind `out`. -/
def value (out : String) : Json → String
  | .null => out ++ "null"
  | .bool b => out ++ (if b then "true" else "false")
  | .num n => out ++ number n
  | .str text => string out text
  | .arr items => (values (out.push '[') items true).push ']'
  | .obj fields => (members (out.push '\x7b') fields true).push '\x7d'

/-- Items behind `out`, with commas between them. -/
def values (out : String) : List Json → (first : Bool) → String
  | [], _ => out
  | item :: rest, first => values (value (if first then out else out.push ',') item) rest false

/-- Fields behind `out`, with commas between them. -/
def members (out : String) : Fields → (first : Bool) → String
  | [], _ => out
  | (name, item) :: rest, first =>
    members (value ((string (if first then out else out.push ',') name).push ':') item) rest false

end

/-- The start of a line at the given level. -/
def newLine (out : String) (level : Nat) : String :=
  out ++ "\n" ++ String.ofList (List.replicate (2 * level) ' ')

mutual

/-- A value behind `out`, with its parts on lines one level deeper. -/
def indented (level : Nat) (out : String) : Json → String
  | .arr [] => out ++ "[]"
  | .arr (item :: rest) =>
    (newLine (indentedItems level (indented (level + 1) (newLine (out.push '[') (level + 1)) item)
      rest) level).push ']'
  | .obj [] => out ++ "\x7b\x7d"
  | .obj ((name, item) :: rest) =>
    (newLine (indentedFields level (indented (level + 1)
      (string (newLine (out.push '\x7b') (level + 1)) name ++ ": ") item) rest) level).push '\x7d'
  | scalar => value out scalar

/-- Further items behind `out`, each on a line of its own. -/
def indentedItems (level : Nat) (out : String) : List Json → String
  | [] => out
  | item :: rest =>
    indentedItems level (indented (level + 1) (newLine (out.push ',') (level + 1)) item) rest

/-- Further fields behind `out`, each on a line of its own. -/
def indentedFields (level : Nat) (out : String) : Fields → String
  | [] => out
  | (name, item) :: rest =>
    indentedFields level (indented (level + 1)
      (string (newLine (out.push ',') (level + 1)) name ++ ": ") item) rest

end

end Writer

/-- The value as text on one line. -/
def write (json : Json) : String :=
  Writer.value "" json

/-- The value as text with two spaces of indentation per level. -/
def writeIndented (json : Json) : String :=
  Writer.indented 0 "" json

end SwapCompiler.Json
