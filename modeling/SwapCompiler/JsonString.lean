import SwapCompiler.Text.Charset

/-!
# Strings of JSON values

A string of a JSON value is ordinary text, unless a surrogate stands alone in it: then it is
a list of code points that are not all characters. Strings and lists of code points are the
same, as `points_ofPoints` and `ofPoints_points` say, so every string has one form.
-/

namespace SwapCompiler

/-- A string of a JSON value. -/
inductive JsonString
  /-- Ordinary text. -/
  | unicode (text : String)
  /-- Code points with at least one surrogate among them. -/
  | unpaired (points : List Text.CodePoint) (holds : points.any (·.isSurrogate) = true)
  deriving DecidableEq, Repr

namespace JsonString

open Text

instance : Coe String JsonString where
  coe := .unicode

instance : Inhabited JsonString where
  default := .unicode ""

/-- The code points of a string. -/
def points : JsonString → List CodePoint
  | .unicode text => text.toList.map .char
  | .unpaired points _ => points

/-- The string of the given code points. -/
def ofPoints (points : List CodePoint) : JsonString :=
  if h : points.any (·.isSurrogate) = true then .unpaired points h
  else .unicode (String.ofList (points.filterMap CodePoint.char?))

theorem points_ofPoints (points : List CodePoint) : (ofPoints points).points = points := by
  unfold ofPoints
  split
  · rfl
  · rename_i text
    simp only [JsonString.points, String.toList_ofList]
    induction points with
    | nil => rfl
    | cons point rest ih =>
      cases point with
      | char c =>
        simp only [List.any_cons, CodePoint.isSurrogate, Bool.false_or] at text
        simpa [CodePoint.char?] using ih text
      | surrogate offset => simp [CodePoint.isSurrogate] at text

theorem ofPoints_points (string : JsonString) : ofPoints string.points = string := by
  cases string with
  | unicode text =>
    simp [ofPoints, points, CodePoint.isSurrogate, List.filterMap_map, Function.comp_def,
      CodePoint.char?]
  | unpaired points holds => simp [ofPoints, JsonString.points, holds]

/-- Whether the string is ordinary text. -/
def isUnicode : JsonString → Bool
  | .unicode _ => true
  | .unpaired .. => false

/-- One string behind another. -/
def append : JsonString → JsonString → JsonString
  | .unicode a, .unicode b => .unicode (a ++ b)
  | a, b => ofPoints (a.points ++ b.points)

instance : Append JsonString where
  append := append

/-- Whether the string starts with the given characters. -/
def startsWith (string : JsonString) (start : List Char) : Bool :=
  (start.map CodePoint.char).isPrefixOf string.points

/-! ## Quotation -/

/-- One code point inside a quotation closed by `mark`. A surrogate is given by its
number. -/
def quotePoint (mark : Char) : CodePoint → List Char
  | .char c => quoteChar mark c
  | .surrogate offset => escapeNumber (CodePoint.surrogate offset).toNat

/-- The string in quotation. -/
def quote : JsonString → String
  | .unicode text => Text.quote text
  | .unpaired points _ =>
    let mark := quoteMark (points.filterMap CodePoint.char?)
    String.ofList (mark :: (points.flatMap (quotePoint mark) ++ [mark]))

end JsonString

end SwapCompiler
