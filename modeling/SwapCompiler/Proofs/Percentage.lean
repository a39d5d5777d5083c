import SwapCompiler.Proofs.Binary64
import SwapCompiler.Proofs.Decimal.Shortest

/-!
# Shares in hundredths

A share above zero and at most a hundred percent is written as the ceiling of a hundred
times its shortest decimal, without any rounding (`Percentage.encode_eq_ceil`), and that is
a number from one to ten thousand (`Percentage.encode_share`). The decimals keep the order of
the shares, since the intervals around two binary numbers may touch but do not overlap.
-/

namespace SwapCompiler.Percentage

/-- Few digits are not rounded. -/
theorem hundredths_eq_ceil {d : Decimal} (few : d.digits < 10 ^ 20) :
    hundredths d = ⌈100 * d.value⌉ := by
  have short : d.timesHundred.digits < 10 ^ precision := by
    have wide : 100 * 10 ^ 20 < 10 ^ precision := by decide
    exact Nat.lt_trans (Nat.mul_lt_mul_of_pos_left few (by decide)) wide
  rw [hundredths, Decimal.roundTo_of_lt (by decide) short, Decimal.ceil_eq,
    Decimal.value_timesHundred]

/-- A share that cannot be encoded is no reason to refuse a route. -/
theorem encode_ne_refused {share : Number} {reason : Refusal} :
    encode share ≠ .error (.refused reason) := by
  intro refused
  cases share with
  | int n => cases refused
  | float x =>
    rw [encode] at refused
    cases read : Binary64.ofFloat x <;> rw [read] at refused <;> cases refused

/-! ## The decimal of a share -/

/-- The decimal that a share is taken in. -/
def decimal (share : Float) : Decimal :=
  match Binary64.ofFloat share with
  | .finite negative mantissa exponent narrow =>
    Decimal.shortest negative mantissa exponent narrow
  | _ => ⟨false, 0, 0⟩

section Decimal

open Decimal.Shortest (Interval)

variable {share share' : Float} {mantissa mantissa' : Nat} {exponent exponent' : Int}

theorem decimal_eq (unpacks : Binary64.Unpacks share mantissa exponent) :
    decimal share = Decimal.shortest false mantissa exponent
      (Binary64.isNarrow mantissa exponent) := by
  rw [decimal, unpacks.ofFloat_eq]

theorem decimal_pos (unpacks : Binary64.Unpacks share mantissa exponent) :
    0 < (decimal share).value := by
  rw [decimal_eq unpacks]
  exact Decimal.shortest_pos _ unpacks.normal.pos unpacks.normal.least

/-- The interval of a number ends before that of the next one begins. -/
theorem high_le_low (normal : Binary64.Normal mantissa exponent)
    (normal' : Binary64.Normal mantissa' exponent') {narrow : Bool}
    (before : exponent < exponent' ∨ exponent = exponent' ∧ mantissa < mantissa') :
    (Interval.high ⟨mantissa, exponent, narrow⟩ : ℚ) * 2 ^ (exponent - 2) ≤
      (Interval.low ⟨mantissa', exponent', Binary64.isNarrow mantissa' exponent'⟩ : ℚ) *
        2 ^ (exponent' - 2) := by
  have unit : (0 : ℚ) ≤ 2 ^ (exponent - 2) := zpow_nonneg (by norm_num) _
  obtain lower | ⟨rfl, smaller⟩ := before
  · -- a mantissa of the higher exponent is full, and if it is the least one the interval is narrow
    have full := normal'.full (normal.least.trans_lt lower)
    have bound := normal.lt
    have ends : Interval.high ⟨mantissa, exponent, narrow⟩ ≤
        Interval.low ⟨mantissa', exponent', Binary64.isNarrow mantissa' exponent'⟩ * 2 := by
      by_cases least : mantissa' = 2 ^ 52
      · have narrow' : Binary64.isNarrow mantissa' exponent' = true := by
          simp [Binary64.isNarrow, least, normal.least.trans_lt lower]
        simp only [Interval.high, Interval.low, narrow', if_true]
        omega
      · simp only [Interval.high, Interval.low]
        split <;> omega
    have double : (2 : ℚ) * 2 ^ (exponent - 2) ≤ 2 ^ (exponent' - 2) := by
      rw [← zpow_one_add₀ (by norm_num)]
      exact zpow_le_zpow_right₀ (by norm_num) (by omega)
    calc (Interval.high ⟨mantissa, exponent, narrow⟩ : ℚ) * 2 ^ (exponent - 2)
        ≤ Interval.low ⟨mantissa', exponent', Binary64.isNarrow mantissa' exponent'⟩ * 2 *
            2 ^ (exponent - 2) := mul_le_mul_of_nonneg_right (by exact_mod_cast ends) unit
      _ ≤ _ := by
        rw [mul_assoc]
        exact mul_le_mul_of_nonneg_left double (Nat.cast_nonneg _)
  · have ends : Interval.high ⟨mantissa, exponent, narrow⟩ ≤
        Interval.low ⟨mantissa', exponent, Binary64.isNarrow mantissa' exponent⟩ := by
      simp only [Interval.high, Interval.low]
      split <;> omega
    exact mul_le_mul_of_nonneg_right (by exact_mod_cast ends) unit

/-- The decimals of positive numbers keep their order. -/
theorem decimal_mono (unpacks : Binary64.Unpacks share mantissa exponent)
    (unpacks' : Binary64.Unpacks share' mantissa' exponent') (le : share ≤ share') :
    (decimal share).value ≤ (decimal share').value := by
  have order := unpacks.order_of_le unpacks' le
  rw [decimal_eq unpacks, decimal_eq unpacks']
  by_cases same : exponent = exponent' ∧ mantissa = mantissa'
  · obtain ⟨rfl, rfl⟩ := same
    exact le_refl _
  · have before : exponent < exponent' ∨ exponent = exponent' ∧ mantissa < mantissa' := by omega
    have high := Decimal.shortest_bounds (Binary64.isNarrow mantissa exponent)
      unpacks.normal.pos unpacks.normal.least
    have low := Decimal.shortest_bounds (Binary64.isNarrow mantissa' exponent')
      unpacks'.normal.pos unpacks'.normal.least
    exact (high.2.trans (high_le_low unpacks.normal unpacks'.normal before)).trans low.1

theorem decimal_le_hundred (unpacks : Binary64.Unpacks share mantissa exponent)
    (atMost : share ≤ 100) : (decimal share).value ≤ 100 := by
  have hundred : decimal 100 = ⟨false, 1, 2⟩ := by decide +kernel
  have order := decimal_mono unpacks Binary64.unpacks_hundred atMost
  rw [hundred] at order
  norm_num [Decimal.value] at order
  exact order

end Decimal

/-! ## The number of a share -/

/-- A share is encoded as the ceiling of a hundred times its shortest decimal. -/
theorem encode_eq_ceil {x : Float} (positive : 0 < x) (atMost : x ≤ 100) :
    encode (.float x) = .ok ⌈100 * (decimal x).value⌉ := by
  obtain ⟨mantissa, exponent, unpacks⟩ := Binary64.exists_unpacks_of_share positive atMost
  have below := decimal_le_hundred unpacks atMost
  have few : (decimal x).digits < 10 ^ 20 := by
    rw [decimal_eq unpacks] at below ⊢
    have coarse : (10 : ℚ) ^ (3 : Int) ≤ 10 ^ Decimal.Shortest.coarsestGrid :=
      zpow_le_zpow_right₀ (by norm_num) (by decide)
    refine Decimal.digits_shortest_lt _ unpacks.normal.pos unpacks.normal.lt unpacks.normal.least
      (lt_of_lt_of_le (below.trans_lt ?_) coarse)
    norm_num
  rw [← hundredths_eq_ceil few, encode, decimal_eq unpacks, unpacks.ofFloat_eq]

/-- A share is a number of hundredths from one to ten thousand. -/
theorem encode_share {x : Float} (positive : 0 < x) (atMost : x ≤ 100) :
    ∃ n : Nat, encode (.float x) = .ok n ∧ 1 ≤ n ∧ n ≤ 10000 := by
  obtain ⟨mantissa, exponent, unpacks⟩ := Binary64.exists_unpacks_of_share positive atMost
  have above := decimal_pos unpacks
  have below := decimal_le_hundred unpacks atMost
  have encoded := encode_eq_ceil positive atMost
  have least : 1 ≤ ⌈100 * (decimal x).value⌉ := Int.one_le_ceil_iff.mpr (by linarith only [above])
  have most : ⌈100 * (decimal x).value⌉ ≤ 10000 := by
    refine Int.ceil_le.mpr ?_
    push_cast
    linarith only [below]
  refine ⟨⌈100 * (decimal x).value⌉.toNat, ?_, by omega, by omega⟩
  rw [encoded, Int.toNat_of_nonneg (by omega)]

end SwapCompiler.Percentage
