import SwapCompiler.Decimal.Shortest

/-!
# How numbers are written and read

A real number is written with the shortest digits that read back. Between `10 ^ -4` and
`10 ^ 16` the point stands among the digits, with at least one digit on either side;
outside, an exponent with a sign and at least two digits follows the first digit's
fraction. Reading takes the binary64 number nearest to the decimal.
-/

namespace SwapCompiler

namespace Decimal

/-- When the point stands among the digits, and how an exponent is written otherwise. -/
structure Layout where
  leastPositional : Int
  mostPositional : Int
  exponentMark : Char
  exponentDigits : Nat

/-- The layout of real numbers in logs and messages. -/
def layout : Layout := ⟨-4, 15, 'e', 2⟩

/-- Digits with the point behind the first `place` of them, zeros being filled in. -/
def pointed (digits : List Char) (place : Int) : List Char :=
  if place ≤ 0 then
    '0' :: '.' :: (List.replicate (-place).toNat '0' ++ digits)
  else if digits.length ≤ place.toNat then
    digits ++ List.replicate (place.toNat - digits.length) '0' ++ ['.', '0']
  else digits.take place.toNat ++ '.' :: digits.drop place.toNat

/-- Digits with the point behind the first, and an exponent. -/
def scientific (layout : Layout) (digits : List Char) (power : Int) : List Char :=
  let mantissa := match digits with
    | [] => []
    | [digit] => [digit]
    | digit :: rest => digit :: '.' :: rest
  let powerDigits := digitsOf power.natAbs
  mantissa ++ layout.exponentMark :: (if power < 0 then '-' else '+') ::
    (List.replicate (layout.exponentDigits - powerDigits.length) '0' ++ powerDigits)

/-- The decimal as text. -/
def write (layout : Layout) (d : Decimal) : String :=
  let digits := digitsOf d.digits
  let power := if d.digits = 0 then 0 else d.exponent + digits.length - 1
  let body :=
    if layout.leastPositional ≤ power ∧ power ≤ layout.mostPositional then
      pointed digits (power + 1)
    else scientific layout digits power
  String.ofList (if d.negative then '-' :: body else body)

/-- The nearest binary64 number. -/
def toFloat (d : Decimal) : Float :=
  let magnitude :=
    if 0 ≤ d.exponent then Float.ofScientific d.digits false d.exponent.toNat
    else Float.ofScientific d.digits true (-d.exponent).toNat
  if d.negative then -magnitude else magnitude

end Decimal

/-- A real number as text. -/
def Binary64.write : Binary64 → String
  | .notANumber => "nan"
  | .infinite negative => if negative then "-inf" else "inf"
  | .finite negative mantissa exponent narrow =>
    (Decimal.shortest negative mantissa exponent narrow).write Decimal.layout

end SwapCompiler
