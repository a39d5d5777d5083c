import SwapCompiler.Fault
import SwapCompiler.Json

/-!
# Percentages in hundredths

A leg's share is written as the least whole number of hundredths of a percent that is not
below it. The share is taken in its shortest decimal form, so that 1.1 gives 110 although
the binary number is a little more than 1.1; the product by a hundred is kept to 28
significant digits, which is exact for every binary number.
-/

namespace SwapCompiler.Percentage

/-- The significant digits kept in a product. -/
def precision : Nat := 28

/-- The hundredths of a decimal percentage, rounded up. -/
def hundredths (percent : Decimal) : Int :=
  (percent.timesHundred.roundTo precision).ceil

/-- The hundredths of a percentage, rounded up. -/
def encode : Number → Except Fault Int
  | .int n => .ok (hundredths (.ofInt n))
  | .float x =>
    match Binary64.ofFloat x with
    | .notANumber => .error .percentNotANumber
    | .infinite _ => .error .percentInfinite
    | .finite negative mantissa exponent narrow =>
      .ok (hundredths (Decimal.shortest negative mantissa exponent narrow))

end SwapCompiler.Percentage
