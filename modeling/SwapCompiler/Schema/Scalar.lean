import SwapCompiler.CallTemplate
import SwapCompiler.Schema
import SwapCompiler.Text.RealLiteral

/-!
# Checks of single values

Texts are taken as they are; addresses and byte strings must have their strict forms. A
text with an unpaired surrogate is never read as anything else.
Numbers and truth values are also accepted in other guises: a truth value or a text as a
number, a whole number as a real one, a real one without a fraction as a whole one, zero
and one and a few words as truth values.
-/

namespace SwapCompiler.Schema

/-- A text. -/
def text : Json → Checked JsonString
  | .str text => .valid text
  | json => .broken .text json

/-- An address of the strict form. -/
def address : Json → Checked Address
  | .str (.unicode text) =>
    if strict : isStrictAddress text = true then .valid ⟨text, strict⟩
    else .broken (.pattern Address.pattern) (.str text)
  | .str text => .broken .unicodeText (.str text)
  | json => .broken .text json

/-- A byte string of the strict form. -/
def hexData : Json → Checked HexData
  | .str (.unicode text) =>
    if strict : Hex.isStrict text = true then .valid ⟨text, strict⟩
    else .broken (.pattern HexData.pattern) (.str text)
  | .str text => .broken .unicodeText (.str text)
  | json => .broken .text json

/-- An amount, as the text under which it is kept. -/
def amount (json : Json) : Checked String :=
  match Amount.check json with
  | .ok text => .valid text
  | .error error => .broken (.amount error) json

/-- The name of an executor. -/
def executor : Json → Checked Executor
  | .str (.unicode text) =>
    match Executor.ofName? text with
    | some executor => .valid executor
    | none => .broken .executorName (.str text)
  | json => .broken .executorName json

/-! ## Real numbers -/

/-- A real number. A whole number must not be too large to have a nearest one. -/
def real : Json → Checked Float
  | .num (.float x) => .valid x
  | .num (.int n) =>
    if (Float.ofInt n).isFinite then .valid (Float.ofInt n) else .broken .real (.int n)
  | .bool b => .valid (if b then 1.0 else 0.0)
  | .str (.unicode text) =>
    match Text.readReal? text with
    | some x => .valid x
    | none => .broken .realText (.str text)
  | .str text => .broken .unicodeText (.str text)
  | json => .broken .real json

/-- A share in percent: above zero and at most a hundred. -/
def percent (json : Json) : Checked Float :=
  (real json).andThen fun x =>
    if x ≤ 100 then
      if 0 < x then .valid x else .broken (.greaterThan 0) json
    else .broken (.atMost 100) json

/-! ## Whole numbers -/

/-- The bound on signed numbers of 64 bits. -/
def wideBound : Nat := Nat.pow 2 63

/-- The whole number that a real number without fraction is, within 64 bits. -/
def wholeOfReal (x : Float) : Except Rule Int :=
  match Binary64.ofFloat x with
  | .notANumber | .infinite _ => .error .finite
  | .finite negative mantissa exponent _ =>
    let unit := Nat.pow 2 (-exponent).toNat
    if mantissa % unit ≠ 0 then .error .noFraction
    else
      let magnitude := mantissa / unit * Nat.pow 2 exponent.toNat
      if magnitude < wideBound then .ok (if negative then -(magnitude : Int) else magnitude)
      else .error .wholeSize

/-- A whole number. -/
def whole : Json → Checked Int
  | .num (.int n) => .valid n
  | .num (.float x) =>
    match wholeOfReal x with
    | .ok n => .valid n
    | .error rule => .broken rule (.float x)
  | .bool b => .valid (if b then 1 else 0)
  | .str (.unicode text) =>
    match Text.readWhole text with
    | .ok n => .valid n
    | .error .malformed => .broken .wholeText (.str text)
    | .error (.tooLong _) => .broken .wholeSize (.str text)
  | .str text => .broken .unicodeText (.str text)
  | json => .broken .whole json

/-- A whole number that fits one byte. -/
def byte (json : Json) : Checked UInt8 :=
  (whole json).andThen fun n =>
    if n < 0 then .broken (.atLeast 0) json
    else if 255 < n then .broken (.atMost 255) json
    else .valid (UInt8.ofNat n.toNat)

/-! ## Truth values -/

/-- The words for false, in lower case. -/
def falseWords : List String := ["0", "off", "f", "false", "n", "no"]

/-- The words for true, in lower case. -/
def trueWords : List String := ["1", "on", "t", "true", "y", "yes"]

/-- A truth value. -/
def truth (json : Json) : Checked Bool :=
  match json with
  | .bool b => .valid b
  | .num (.int n) =>
    if n = 0 then .valid false
    else if n = 1 then .valid true
    else if -(wideBound : Int) ≤ n ∧ n < wideBound then .broken .truthText json
    else .broken .truth json
  | .num (.float x) =>
    match wholeOfReal x with
    | .ok n =>
      if n = 0 then .valid false
      else if n = 1 then .valid true
      else .broken .truthText json
    | .error _ => .broken .truth json
  | .str (.unicode text) =>
    let word := String.ofList (text.toList.map Char.toLower)
    if falseWords.contains word then .valid false
    else if trueWords.contains word then .valid true
    else .broken .truthText json
  | .str _ => .broken .unicodeText json
  | _ => .broken .truth json

end SwapCompiler.Schema
