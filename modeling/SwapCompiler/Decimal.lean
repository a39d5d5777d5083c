/-!
# Decimal numbers

Signed decimal numbers `± digits · 10 ^ exponent`, exact, with the few operations that
percentages need: rounding to a number of significant digits, multiplication by a hundred
and the ceiling.
-/

namespace SwapCompiler

/-- The number `digits · 10 ^ exponent`, negated if `negative`. -/
structure Decimal where
  negative : Bool
  digits : Nat
  exponent : Int
  deriving DecidableEq, Repr

namespace Decimal

/-- A whole number. -/
def ofInt (n : Int) : Decimal :=
  ⟨n < 0, n.natAbs, 0⟩

/-- The digits that write a natural number. -/
def digitsOf (n : Nat) : List Char :=
  Nat.toDigits 10 n

/-- The quotient rounded to the nearest whole number, a half going to the even one. -/
def divHalfEven (n divisor : Nat) : Nat :=
  let quotient := n / divisor
  let twice := 2 * (n % divisor)
  if divisor < twice || (divisor == twice && quotient % 2 == 1) then quotient + 1 else quotient

/-- The number rounded to at most `places` significant digits, a half going to the even
neighbour. -/
def roundTo (places : Nat) (d : Decimal) : Decimal :=
  let surplus := (digitsOf d.digits).length - places
  if surplus = 0 then d
  else ⟨d.negative, divHalfEven d.digits (Nat.pow 10 surplus), d.exponent + surplus⟩

/-- A hundred times the number. -/
def timesHundred (d : Decimal) : Decimal :=
  { d with digits := 100 * d.digits }

/-- The least whole number that is not below the number. -/
def ceil (d : Decimal) : Int :=
  if 0 ≤ d.exponent then
    let whole := d.digits * Nat.pow 10 d.exponent.toNat
    if d.negative then -(whole : Int) else whole
  else
    let unit := Nat.pow 10 (-d.exponent).toNat
    if d.negative then -((d.digits / unit : Nat) : Int) else ((d.digits + unit - 1) / unit : Nat)

end Decimal

end SwapCompiler
