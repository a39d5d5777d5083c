import SwapCompiler.Decimal

/-!
# The shortest decimal that reads back

A finite binary64 number is `mantissa · 2 ^ exponent`. The decimals that round to it fill
an interval around it, whose ends belong to it when the mantissa is even. Of the grids
`10 ^ k`, from the coarsest down, the first with a point in the interval gives the decimal
with the fewest digits; if both neighbours of the number on that grid lie in the interval
the nearer is taken, and of two equally near ones the even one.

All comparisons are between natural numbers: a quarter of the spacing of the binary
number, `2 ^ (exponent - 2)`, is the unit for the interval, and both this unit and the
grid are scaled to be whole.
-/

namespace SwapCompiler

/-- What a binary64 number is. -/
inductive Binary64
  | notANumber
  | infinite (negative : Bool)
  /-- The number `mantissa · 2 ^ exponent`; `narrow` says that the number below is only
  half as far away as the one above. -/
  | finite (negative : Bool) (mantissa : Nat) (exponent : Int) (narrow : Bool)
  deriving DecidableEq, Repr

namespace Binary64

/-- The weight of the sign bit. -/
def signUnit : Nat := Nat.pow 2 63

/-- The weight of the lowest bit of the exponent, above all bits of the fraction. -/
def exponentUnit : Nat := Nat.pow 2 52

/-- Reads the sign, the exponent and the fraction of a binary64 number. -/
def ofFloat (x : Float) : Binary64 :=
  let bits : Nat := x.toBits.toNat
  let negative := decide (signUnit ≤ bits)
  let biased : Nat := bits / exponentUnit % 2048
  let fraction : Nat := bits % exponentUnit
  if biased = 2047 then
    if fraction = 0 then .infinite negative else .notANumber
  else if biased = 0 then .finite negative fraction (-1074) false
  else .finite negative (exponentUnit + fraction) (biased - 1075) (fraction == 0 && biased != 1)

end Binary64

namespace Decimal.Shortest

/-- The interval of the numbers that round to `mantissa · 2 ^ exponent`, in quarters of
the spacing: the number itself is at `4 * mantissa`. -/
structure Interval where
  mantissa : Nat
  exponent : Int
  narrow : Bool

namespace Interval

/-- The lower end. -/
def low (i : Interval) : Nat := 4 * i.mantissa - (if i.narrow then 1 else 2)

/-- The upper end. -/
def high (i : Interval) : Nat := 4 * i.mantissa + 2

/-- What a point of the grid `10 ^ k` is multiplied by to be compared. -/
def gridScale (i : Interval) (k : Int) : Nat :=
  Nat.pow 10 k.toNat * Nat.pow 2 (2 - i.exponent).toNat

/-- What a quarter of the spacing is multiplied by to be compared. -/
def unitScale (i : Interval) (k : Int) : Nat :=
  Nat.pow 2 (i.exponent - 2).toNat * Nat.pow 10 (-k).toNat

/-- Whether the grid point `point · 10 ^ k` rounds to the number. -/
def holds (i : Interval) (k : Int) (point : Nat) : Bool :=
  let p := point * i.gridScale k
  let low := i.low * i.unitScale k
  let high := i.high * i.unitScale k
  let closed := i.mantissa % 2 == 0
  (low < p || (closed && low == p)) && (p < high || (closed && p == high))

/-- The point of the grid `10 ^ k` that stands for the number, if one rounds to it. -/
def point? (i : Interval) (k : Int) : Option Nat :=
  let grid := i.gridScale k
  let number := 4 * i.mantissa * i.unitScale k
  let below := number / grid
  match i.holds k below, i.holds k (below + 1) with
  | false, false => none
  | true, false => some below
  | false, true => some (below + 1)
  | true, true =>
    let down := number - below * grid
    let up := (below + 1) * grid - number
    if down < up || (down == up && below % 2 == 0) then some below else some (below + 1)

/-- Looks at `fuel` grids, from `10 ^ k` down. -/
def search (i : Interval) : (fuel : Nat) → (k : Int) → Nat × Int
  | 0, k => (0, k)
  | fuel + 1, k =>
    match i.point? k with
    | some point => (point, k)
    | none => search i fuel (k - 1)

end Interval

/-- The coarsest grid worth a look: no finite number reaches `10 ^ 309`. -/
def coarsestGrid : Int := 309

/-- The number of grids down to `10 ^ -1074`, which holds every finite number exactly. -/
def gridCount : Nat := 1384

/-- The digits and the exponent of the shortest decimal of a nonzero number. -/
def digits (mantissa : Nat) (exponent : Int) (narrow : Bool) : Nat × Int :=
  Interval.search ⟨mantissa, exponent, narrow⟩ gridCount coarsestGrid

end Decimal.Shortest

/-- The shortest decimal of the number `± mantissa · 2 ^ exponent`; zero has the digit
zero. -/
def Decimal.shortest (negative : Bool) (mantissa : Nat) (exponent : Int) (narrow : Bool) :
    Decimal :=
  if mantissa = 0 then ⟨negative, 0, 0⟩
  else
    let (digits, exponent) := Shortest.digits mantissa exponent narrow
    ⟨negative, digits, exponent⟩

end SwapCompiler
