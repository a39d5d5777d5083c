import SwapCompiler.Decimal
import Mathlib.Data.Nat.Digits.Defs
import Mathlib.Data.Rat.Floor
import Mathlib.Tactic.Ring

/-!
# The value of a decimal

A decimal stands for a rational number. A hundred times it and its ceiling are those of the
number, and rounding leaves alone what has few enough digits.
-/

namespace SwapCompiler.Decimal

/-- The number that a decimal stands for. -/
def value : Decimal → ℚ
  | ⟨false, digits, exponent⟩ => digits * 10 ^ exponent
  | ⟨true, digits, exponent⟩ => -(digits * 10 ^ exponent)

theorem value_timesHundred (d : Decimal) : d.timesHundred.value = 100 * d.value := by
  obtain ⟨negative, digits, exponent⟩ := d
  cases negative with
  | false =>
    simp only [value, timesHundred, Nat.cast_mul, Nat.cast_ofNat]
    ring
  | true =>
    simp only [value, timesHundred, Nat.cast_mul, Nat.cast_ofNat]
    ring

/-- Division that rounds up, between natural numbers and between rational ones. -/
theorem add_pred_div_eq_ceil (n : Nat) {unit : Nat} (positive : 0 < unit) :
    (((n + unit - 1) / unit : Nat) : Int) = ⌈(n : ℚ) / unit⌉ := by
  rw [Rat.ceil_natCast_div_natCast]
  have split := Nat.div_add_mod (n + unit - 1) unit
  have rest := Nat.mod_lt (n + unit - 1) positive
  generalize (n + unit - 1) / unit = quotient at *
  generalize (n + unit - 1) % unit = remainder at *
  have below : -(n : Int) / unit = -(quotient : Int) := by
    have scaled : (unit : Int) * quotient + remainder = n + unit - 1 := by
      have positive' : (1 : Int) ≤ unit := by omega
      have cast := congrArg (Nat.cast (R := Int)) split
      push_cast at cast
      omega
    have unique : -(n : Int) / unit = -(quotient : Int) ∧
        -(n : Int) % unit = unit * quotient - n :=
      Int.ediv_emod_unique (by omega) |>.mpr ⟨by rw [Int.mul_neg]; omega, by omega, by omega⟩
    exact unique.1
  rw [below, Int.neg_neg]

/-- The ceiling of a decimal is that of its number. -/
theorem ceil_eq (d : Decimal) : d.ceil = ⌈d.value⌉ := by
  obtain ⟨negative, digits, exponent⟩ := d
  by_cases whole : 0 ≤ exponent
  · obtain ⟨power, rfl⟩ := Int.eq_ofNat_of_zero_le whole
    have cast : ((digits : ℚ) * 10 ^ (power : Int)) = ((digits * 10 ^ power : Nat) : Int) := by
      push_cast
      rw [zpow_natCast]
    cases negative with
    | false =>
      simp only [ceil, value, whole, if_true, Bool.false_eq_true, if_false, cast,
        Int.ceil_intCast, Int.toNat_natCast]
      rfl
    | true =>
      simp only [ceil, value, whole, if_true, cast, ← Int.cast_neg, Int.ceil_intCast,
        Int.toNat_natCast]
      rfl
  · obtain ⟨power, positive, rfl⟩ : ∃ power : Nat, 0 < power ∧ exponent = -(power : Int) :=
      ⟨(-exponent).toNat, by omega, by omega⟩
    have cast : ((digits : ℚ) * 10 ^ (-(power : Int))) = (digits : ℚ) / (10 ^ power : Nat) := by
      push_cast
      rw [zpow_neg, zpow_natCast, div_eq_mul_inv]
    have unit : 0 < 10 ^ power := Nat.pow_pos (by decide)
    cases negative with
    | false =>
      simp only [ceil, value, if_neg whole, Bool.false_eq_true, if_false, cast, Int.neg_neg,
        Int.toNat_natCast]
      exact add_pred_div_eq_ceil digits unit
    | true =>
      simp only [ceil, value, if_neg whole, if_true, cast, Int.neg_neg, Int.toNat_natCast]
      rw [Int.ceil_neg, Rat.floor_natCast_div_natCast]
      rfl

/-- Rounding leaves alone what has few enough digits. -/
theorem roundTo_of_lt {d : Decimal} {places : Nat} (positive : 0 < places)
    (few : d.digits < 10 ^ places) : d.roundTo places = d := by
  have short : (digitsOf d.digits).length - places = 0 :=
    Nat.sub_eq_zero_of_le (Nat.toDigits_length 10 d.digits places positive few)
  simp only [roundTo, short, if_true]

end SwapCompiler.Decimal
