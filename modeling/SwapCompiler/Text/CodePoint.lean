/-!
# Code points and UTF-16 units

A text from outside may hold surrogates that have no partner. Its code points are then not
all characters. A sequence of UTF-16 units always stands for code points: two surrogates
that form a pair stand for one character, and every other unit for itself.
-/

namespace SwapCompiler.Text

/-- A code point: a character, or a surrogate. -/
inductive CodePoint
  | char (c : Char)
  /-- The surrogate with the given distance from the first one, U+D800. -/
  | surrogate (offset : Fin 0x800)
  deriving DecidableEq, Repr

namespace CodePoint

/-- The number of a code point. -/
def toNat : CodePoint → Nat
  | .char c => c.toNat
  | .surrogate offset => 0xd800 + offset

/-- The code point with the given number. -/
def ofNat? (n : Nat) : Option CodePoint :=
  if h : 0xd800 ≤ n ∧ n < 0xe000 then some (.surrogate ⟨n - 0xd800, by omega⟩)
  else if n < 0x110000 then some (.char (Char.ofNat n))
  else none

/-- Whether the code point is a surrogate. -/
def isSurrogate : CodePoint → Bool
  | .char _ => false
  | .surrogate _ => true

/-- The character, unless the code point is a surrogate. -/
def char? : CodePoint → Option Char
  | .char c => some c
  | .surrogate _ => none

/-- Whether the code point is a character with the given property. -/
def isChar (property : Char → Bool) : CodePoint → Bool
  | .char c => property c
  | .surrogate _ => false

/-! ## UTF-16 units -/

/-- The code point of a unit that stands alone. -/
def ofUnit (unit : UInt16) : CodePoint :=
  if h : 0xd800 ≤ unit.toNat ∧ unit.toNat < 0xe000 then
    .surrogate ⟨unit.toNat - 0xd800, by omega⟩
  else .char (Char.ofNat unit.toNat)

/-- Whether the unit can be the first of a pair. -/
def isLeading (unit : UInt16) : Bool :=
  0xd800 ≤ unit && unit < 0xdc00

/-- Whether the unit can be the second of a pair. -/
def isTrailing (unit : UInt16) : Bool :=
  0xdc00 ≤ unit && unit < 0xe000

/-- The character of two units, if they form a pair. -/
def ofPair? (leading trailing : UInt16) : Option Char :=
  if isLeading leading && isTrailing trailing then
    some (Char.ofNat
      (0x10000 + (leading.toNat - 0xd800) * 0x400 + (trailing.toNat - 0xdc00)))
  else none

/-- The code points of units; `read` holds those of earlier units in reverse. -/
def ofUnitsFrom (read : List CodePoint) : List UInt16 → List CodePoint
  | [] => read.reverse
  | [unit] => (ofUnit unit :: read).reverse
  | leading :: trailing :: rest =>
    match ofPair? leading trailing with
    | some c => ofUnitsFrom (.char c :: read) rest
    | none => ofUnitsFrom (ofUnit leading :: read) (trailing :: rest)

/-- The code points of units. -/
def ofUnits (units : List UInt16) : List CodePoint :=
  ofUnitsFrom [] units

end CodePoint

end SwapCompiler.Text
