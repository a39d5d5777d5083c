import SwapCompiler.Decimal.Shortest
import SwapCompiler.Proofs.Decimal
import Mathlib.Tactic.FieldSimp
import Mathlib.Tactic.Linarith
import Mathlib.Tactic.NormNum
import Mathlib.Tactic.Positivity

/-!
# What the search for the shortest decimal finds

Every comparison of the search is one between rational numbers: a point of the grid stands
in the interval of the number if, measured in quarters of the spacing, it stands between
the ends (`Interval.bounds_of_holds`, `Interval.holds_of_lt`). The search ends on the
coarsest grid that has a point in the interval, and there is one, since every binary number
stands on the finest grid.
-/

namespace SwapCompiler.Decimal

namespace Shortest

namespace Interval

/-- The spacing of the grid `10 ^ k`, in quarters of the spacing of the number. -/
def step (i : Interval) (k : Int) : ℚ := 10 ^ k / 2 ^ (i.exponent - 2)

variable {i : Interval} {k : Int} {point : Nat}

theorem step_pos (i : Interval) (k : Int) : 0 < i.step k :=
  div_pos (zpow_pos (by norm_num) _) (zpow_pos (by norm_num) _)

theorem unitScale_pos (i : Interval) (k : Int) : 0 < i.unitScale k :=
  Nat.mul_pos (Nat.pow_pos (by decide)) (Nat.pow_pos (by decide))

theorem zpow_eq_div {base : ℚ} (positive : 0 < base) (k : Int) :
    base ^ k = base ^ k.toNat / base ^ (-k).toNat := by
  rw [← zpow_natCast, ← zpow_natCast, ← zpow_sub₀ positive.ne']
  congr 1
  omega

/-- The scales differ by the spacing of the grid. -/
theorem cast_gridScale (i : Interval) (k : Int) :
    (i.gridScale k : ℚ) = i.step k * i.unitScale k := by
  have grid : (i.gridScale k : ℚ) = 10 ^ k.toNat * 2 ^ (2 - i.exponent).toNat := by
    simp only [gridScale, Nat.pow_eq]
    push_cast
    rfl
  have unit : (i.unitScale k : ℚ) = 2 ^ (i.exponent - 2).toNat * 10 ^ (-k).toNat := by
    simp only [unitScale, Nat.pow_eq]
    push_cast
    rfl
  have flip : -(i.exponent - 2) = 2 - i.exponent := by omega
  rw [grid, unit, step, zpow_eq_div (by norm_num) k,
    zpow_eq_div (by norm_num) (i.exponent - 2), flip]
  field_simp

theorem scaled_lt_scaled {units : Nat} :
    units * i.unitScale k < point * i.gridScale k ↔ (units : ℚ) < point * i.step k := by
  have positive : (0 : ℚ) < i.unitScale k := Nat.cast_pos.mpr (i.unitScale_pos k)
  rw [← Nat.cast_lt (α := ℚ), Nat.cast_mul, Nat.cast_mul, cast_gridScale, ← mul_assoc]
  exact mul_lt_mul_iff_left₀ positive

theorem scaled_lt_scaled' {units : Nat} :
    point * i.gridScale k < units * i.unitScale k ↔ (point : ℚ) * i.step k < units := by
  have positive : (0 : ℚ) < i.unitScale k := Nat.cast_pos.mpr (i.unitScale_pos k)
  rw [← Nat.cast_lt (α := ℚ), Nat.cast_mul, Nat.cast_mul, cast_gridScale, ← mul_assoc]
  exact mul_lt_mul_iff_left₀ positive

/-- A point that rounds to the number stands between the ends. -/
theorem bounds_of_holds (h : i.holds k point = true) :
    (i.low : ℚ) ≤ point * i.step k ∧ point * i.step k ≤ (i.high : ℚ) := by
  simp only [holds, Bool.and_eq_true, Bool.or_eq_true, decide_eq_true_eq, beq_iff_eq] at h
  obtain ⟨low, high⟩ := h
  rw [← not_lt, ← not_lt, ← scaled_lt_scaled, ← scaled_lt_scaled']
  omega

/-- Such a point stands for a number between the ends. -/
theorem value_bounds_of_holds (h : i.holds k point = true) :
    (i.low : ℚ) * 2 ^ (i.exponent - 2) ≤ point * 10 ^ k ∧
      point * 10 ^ k ≤ (i.high : ℚ) * 2 ^ (i.exponent - 2) := by
  obtain ⟨low, high⟩ := bounds_of_holds h
  have unit : (0 : ℚ) < 2 ^ (i.exponent - 2) := zpow_pos (by norm_num) _
  have value : (point : ℚ) * 10 ^ k = point * i.step k * 2 ^ (i.exponent - 2) := by
    rw [step, mul_assoc, div_mul_cancel₀ _ unit.ne']
  rw [value]
  exact ⟨mul_le_mul_of_nonneg_right low unit.le, mul_le_mul_of_nonneg_right high unit.le⟩

/-- A point strictly between the ends rounds to the number. -/
theorem holds_of_lt (low : (i.low : ℚ) < point * i.step k)
    (high : point * i.step k < (i.high : ℚ)) : i.holds k point = true := by
  rw [← scaled_lt_scaled] at low
  rw [← scaled_lt_scaled'] at high
  simp [holds, low, high]

/-! ## One grid -/

/-- The point of the grid at or below the number. -/
def below (i : Interval) (k : Int) : Nat := 4 * i.mantissa * i.unitScale k / i.gridScale k

theorem gridScale_pos (i : Interval) (k : Int) : 0 < i.gridScale k :=
  Nat.mul_pos (Nat.pow_pos (by decide)) (Nat.pow_pos (by decide))

/-- The number stands between two neighbours on the grid. -/
theorem below_le (i : Interval) (k : Int) :
    (i.below k : ℚ) * i.step k ≤ (4 * i.mantissa : Nat) := by
  rw [← not_lt, ← scaled_lt_scaled, Nat.not_lt]
  exact Nat.div_mul_le_self _ _

theorem lt_below_succ (i : Interval) (k : Int) :
    ((4 * i.mantissa : Nat) : ℚ) < ((i.below k + 1 : Nat) : ℚ) * i.step k := by
  rw [← scaled_lt_scaled]
  exact Nat.lt_mul_of_div_lt (Nat.lt_succ_self _) (i.gridScale_pos k)

theorem holds_of_point? (h : i.point? k = some point) : i.holds k point = true := by
  unfold point? at h
  dsimp only at h
  split at h
  · cases h
  · cases h
    assumption
  · cases h
    assumption
  · split at h
    · cases h
      assumption
    · cases h
      assumption

theorem not_holds_of_point? (h : i.point? k = none) :
    i.holds k (i.below k) = false ∧ i.holds k (i.below k + 1) = false := by
  unfold point? at h
  dsimp only at h
  split at h
  · exact ⟨by assumption, by assumption⟩
  · cases h
  · cases h
  · split at h <;> cases h

/-! ## All grids -/

/-- The search ends on the first grid with a point. -/
theorem search_of_point? {fuel distance : Nat} (near : distance < fuel)
    (found : (i.point? (k - distance)).isSome = true) :
    ∃ first : Nat, first ≤ distance ∧
      (∃ point, i.point? (k - first) = some point ∧ search i fuel k = (point, k - first)) ∧
      ∀ earlier : Nat, earlier < first → i.point? (k - earlier) = none := by
  induction fuel generalizing k distance with
  | zero => exact absurd near (Nat.not_lt_zero _)
  | succ fuel ih =>
    rw [search]
    cases here : i.point? k with
    | some point =>
      refine ⟨0, Nat.zero_le _, ⟨point, by simpa using here, by simp⟩, ?_⟩
      exact fun earlier h => absurd h (Nat.not_lt_zero _)
    | none =>
      cases distance with
      | zero => simp [here] at found
      | succ distance =>
        have shift (n : Nat) : k - ((n + 1 : Nat) : Int) = k - 1 - n := by omega
        rw [shift] at found
        obtain ⟨first, le, ⟨point, some, result⟩, none⟩ := ih (by omega) found
        refine ⟨first + 1, by omega,
          ⟨point, by rw [shift]; exact some, by rw [shift]; exact result⟩, ?_⟩
        intro earlier h
        cases earlier with
        | zero => simpa using here
        | succ earlier =>
          rw [shift]
          exact none earlier (by omega)

theorem low_lt (i : Interval) (pos : 0 < i.mantissa) : (i.low : ℚ) < (4 * i.mantissa : Nat) := by
  have low : i.low < 4 * i.mantissa := by
    unfold low
    split <;> omega
  exact_mod_cast low

theorem lt_high (i : Interval) : ((4 * i.mantissa : Nat) : ℚ) < i.high := by
  have high : 4 * i.mantissa < i.high := Nat.lt_add_of_pos_right (by decide)
  exact_mod_cast high

/-- A number that is a multiple of `2 ^ -depth` stands on the grid `10 ^ -depth`. -/
theorem below_mul_gridScale {depth : Nat} (deep : -(depth : Int) ≤ i.exponent) :
    i.below (-depth) * i.gridScale (-depth) = 4 * i.mantissa * i.unitScale (-depth) := by
  have flat : (-(depth : Int)).toNat = 0 := by omega
  have steep : (-(-(depth : Int))).toNat = depth := by omega
  have grid : i.gridScale (-depth) = 2 ^ (2 - i.exponent).toNat := by
    rw [gridScale, flat]
    exact Nat.one_mul _
  have unit : i.unitScale (-depth) = 2 ^ (i.exponent - 2).toNat * 10 ^ depth := by
    rw [unitScale, steep]
    rfl
  have powers : 2 ^ (2 - i.exponent).toNat ∣ 4 * 10 ^ depth := by
    have bound : (2 - i.exponent).toNat ≤ 2 + depth := by omega
    refine (Nat.pow_dvd_pow 2 bound).trans ?_
    rw [Nat.pow_add]
    exact Nat.mul_dvd_mul_left _ (pow_dvd_pow_of_dvd (by decide) depth)
  refine Nat.div_mul_cancel ?_
  have regroup : 4 * i.mantissa * i.unitScale (-depth) =
      4 * 10 ^ depth * (i.mantissa * 2 ^ (i.exponent - 2).toNat) := by
    rw [unit]
    ring
  rw [grid, regroup]
  exact powers.mul_right _

theorem isSome_point? {depth : Nat} (pos : 0 < i.mantissa) (deep : -(depth : Int) ≤ i.exponent) :
    (i.point? (-depth)).isSome = true := by
  -- on such a grid the number is itself a point
  have number : (i.below (-depth) : ℚ) * i.step (-depth) = (4 * i.mantissa : Nat) := by
    refine le_antisymm (i.below_le _) ?_
    rw [← not_lt, ← scaled_lt_scaled', below_mul_gridScale deep]
    exact Nat.lt_irrefl _
  have holds : i.holds (-depth) (i.below (-depth)) = true :=
    holds_of_lt (number ▸ i.low_lt pos) (number ▸ i.lt_high)
  cases found : i.point? (-depth) with
  | some point => rfl
  | none =>
    rw [(not_holds_of_point? found).1] at holds
    cases holds

/-! ## The result -/

/-- The shortest decimal of a positive number stands in its interval, and no coarser grid has
a point there. -/
theorem digits_spec (pos : 0 < i.mantissa) (least : -1074 ≤ i.exponent) :
    ∃ point k, digits i.mantissa i.exponent i.narrow = (point, k) ∧ k ≤ coarsestGrid ∧
      i.holds k point = true ∧ ∀ coarser, k < coarser → coarser ≤ coarsestGrid →
        i.point? coarser = none := by
  -- every binary64 number is a multiple of the least one, `2 ^ -1074`
  have last : coarsestGrid - (1383 : Nat) = -(1074 : Nat) := by decide
  have finest : (i.point? (coarsestGrid - (1383 : Nat))).isSome = true := by
    rw [last]
    exact isSome_point? pos (by omega)
  have enough : 1383 < gridCount := by decide
  obtain ⟨first, near, ⟨point, found, result⟩, none⟩ := search_of_point? enough finest
  refine ⟨point, coarsestGrid - first, result, by omega, holds_of_point? found, ?_⟩
  intro coarser above below
  obtain ⟨earlier, rfl⟩ : ∃ earlier : Nat, coarser = coarsestGrid - earlier :=
    ⟨(coarsestGrid - coarser).toNat, by omega⟩
  exact none earlier (by omega)

/-- The shortest decimal has fewer than twenty-one digits, unless it is on the coarsest grid. -/
theorem point_lt {point : Nat} {k : Int} (pos : 0 < i.mantissa) (bound : i.mantissa < 2 ^ 53)
    (holds : i.holds k point = true) (none : i.point? (k + 1) = none) : point < 10 ^ 20 := by
  by_contra many
  have points : (10 : ℚ) ^ 20 ≤ point := by
    exact_mod_cast Nat.le_of_not_lt many
  have mantissa : (i.mantissa : ℚ) < 2 ^ 53 := by
    exact_mod_cast bound
  have high : (i.high : ℚ) = 4 * i.mantissa + 2 := by
    rw [Interval.high]
    push_cast
    rfl
  have ends := (bounds_of_holds holds).2
  have step := i.step_pos k
  have narrow : 10 ^ 20 * i.step k ≤ point * i.step k :=
    mul_le_mul_of_nonneg_right points step.le
  have next : i.step (k + 1) = 10 * i.step k := by
    rw [Interval.step, Interval.step, zpow_add_one₀ (by norm_num)]
    ring
  -- ten steps are less than half the interval, so the coarser grid has a point above the number
  have fine : i.step (k + 1) < 2 := by
    rw [next]
    linarith only [narrow, ends, high, mantissa]
  have above := i.lt_below_succ (k + 1)
  have below := i.below_le (k + 1)
  have inside : i.holds (k + 1) (i.below (k + 1) + 1) = true := by
    refine holds_of_lt ((i.low_lt pos).trans above) ?_
    rw [high]
    push_cast at below ⊢
    linarith only [below, fine]
  rw [(not_holds_of_point? none).2] at inside
  cases inside

end Interval

end Shortest

variable {mantissa : Nat} {exponent : Int} (narrow : Bool)

open Shortest (Interval coarsestGrid)

/-- The shortest decimal of a positive number is what the search finds. -/
theorem exists_shortest (pos : 0 < mantissa) (least : -1074 ≤ exponent) :
    ∃ point k, shortest false mantissa exponent narrow = ⟨false, point, k⟩ ∧ k ≤ coarsestGrid ∧
      Interval.holds ⟨mantissa, exponent, narrow⟩ k point = true ∧
      ∀ coarser, k < coarser → coarser ≤ coarsestGrid →
        Interval.point? ⟨mantissa, exponent, narrow⟩ coarser = none := by
  obtain ⟨point, k, found, spec⟩ :=
    Interval.digits_spec (i := ⟨mantissa, exponent, narrow⟩) pos least
  refine ⟨point, k, ?_, spec⟩
  simp only [shortest, if_neg pos.ne', found]

/-- The shortest decimal of a positive number stands in its interval. -/
theorem shortest_bounds (pos : 0 < mantissa) (least : -1074 ≤ exponent) :
    (Interval.low ⟨mantissa, exponent, narrow⟩ : ℚ) * 2 ^ (exponent - 2) ≤
        (shortest false mantissa exponent narrow).value ∧
      (shortest false mantissa exponent narrow).value ≤
        (Interval.high ⟨mantissa, exponent, narrow⟩ : ℚ) * 2 ^ (exponent - 2) := by
  obtain ⟨point, k, decimal, -, holds, -⟩ := exists_shortest narrow pos least
  rw [decimal]
  exact Interval.value_bounds_of_holds holds

theorem shortest_pos (pos : 0 < mantissa) (least : -1074 ≤ exponent) :
    0 < (shortest false mantissa exponent narrow).value := by
  have low : 0 < Interval.low ⟨mantissa, exponent, narrow⟩ := by
    simp only [Interval.low]
    split <;> omega
  have unit : (0 : ℚ) < 2 ^ (exponent - 2) := zpow_pos (by norm_num) _
  exact (mul_pos (Nat.cast_pos.mpr low) unit).trans_le (shortest_bounds narrow pos least).1

/-- The shortest decimal of a number that does not reach the coarsest grid has few digits. -/
theorem digits_shortest_lt (pos : 0 < mantissa) (bound : mantissa < 2 ^ 53)
    (least : -1074 ≤ exponent)
    (small : (shortest false mantissa exponent narrow).value < 10 ^ coarsestGrid) :
    (shortest false mantissa exponent narrow).digits < 10 ^ 20 := by
  have positive := shortest_pos narrow pos least
  obtain ⟨point, k, decimal, onGrid, holds, coarser⟩ := exists_shortest narrow pos least
  rw [decimal, value] at small positive
  rw [decimal]
  -- on the coarsest grid only zero is as small
  have inside : k ≠ coarsestGrid := by
    rintro rfl
    have one : (1 : ℚ) ≤ point := by
      have nonzero : point ≠ 0 := by
        rintro rfl
        simp at positive
      exact_mod_cast Nat.one_le_iff_ne_zero.mpr nonzero
    have reaches := mul_le_mul_of_nonneg_right one
      (zpow_nonneg (by norm_num : (0 : ℚ) ≤ 10) coarsestGrid)
    rw [one_mul] at reaches
    exact absurd small (not_lt.mpr reaches)
  exact Interval.point_lt pos bound holds (coarser _ (by omega) (by omega))

end SwapCompiler.Decimal
