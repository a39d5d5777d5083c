import Mathlib
import SwapCompiler.Percentage

/-!
# Binary numbers in a range

What the comparisons of binary64 numbers say about their bits. A number above zero and at
most a hundred is finite and is not negative (`Binary64.exists_unpacks_of_share`), and such
numbers are ordered by the exponent first and then by the mantissa
(`Binary64.Unpacks.order_of_le`).
-/

namespace SwapCompiler.Binary64

open Float.Model (Format UnpackedFloat)

/-! ## Bit fields -/

theorem toNat_unpackExponent (bits : BitVec 64) :
    (@UnpackedFloat.unpackExponent Format.binary64 bits).toNat =
      bits.toNat / 2 ^ 52 % 2048 := by
  simp [UnpackedFloat.unpackExponent, BitVec.extractLsb_toNat, Nat.shiftRight_eq_div_pow]

theorem toNat_unpackMantissa (bits : BitVec 64) :
    (@UnpackedFloat.unpackMantissa Format.binary64 bits).toNat =
      bits.toNat % 2 ^ 52 := by
  simp [UnpackedFloat.unpackMantissa, BitVec.extractLsb_toNat, Nat.shiftRight_eq_div_pow]

theorem toNat_unpackSign (bits : BitVec 64) :
    (@UnpackedFloat.unpackSign Format.binary64 bits).toNat = bits.toNat / 2 ^ 63 := by
  have bound := bits.isLt
  have sign : bits.toNat / 2 ^ 63 < 2 := by omega
  simp [UnpackedFloat.unpackSign, BitVec.extractLsb_toNat, Nat.shiftRight_eq_div_pow]
  omega

/-- The fields of a word that stands for a positive finite number. -/
theorem fields_of_unpack {bits : BitVec 64} {mantissa : Nat} {exponent : Int} {pos : 0 < mantissa}
    (h : UnpackedFloat.unpack Format.binary64 bits = .finite .positive mantissa exponent pos) :
    bits.toNat < 2 ^ 63 ∧ bits.toNat / 2 ^ 52 % 2048 ≠ 2047 ∧
      (bits.toNat / 2 ^ 52 % 2048 = 0 ∧ mantissa = bits.toNat % 2 ^ 52 ∧ exponent = -1074 ∨
        bits.toNat / 2 ^ 52 % 2048 ≠ 0 ∧ mantissa = 2 ^ 52 + bits.toNat % 2 ^ 52 ∧
          exponent = (bits.toNat / 2 ^ 52 % 2048 : Nat) - 1075) := by
  have exponentField := toNat_unpackExponent bits
  have mantissaField := toNat_unpackMantissa bits
  have signField := toNat_unpackSign bits
  have bias : ((Format.binary64.exponentBias : Int) + (52 : Nat)) = 1075 := by decide
  have positive {s : BitVec 1} (h : UnpackedFloat.Sign.ofBitVec s = .positive) : s.toNat = 0 := by
    unfold UnpackedFloat.Sign.ofBitVec at h
    split at h
    · rename_i zero
      rw [zero]
      rfl
    · cases h
  rw [UnpackedFloat.unpack] at h
  dsimp only at h
  -- an exponent of ones is that of infinity or of no number
  by_cases infinite : @UnpackedFloat.unpackExponent Format.binary64 bits = -1#11
  · rw [if_pos infinite] at h
    split at h <;> cases h
  · rw [if_neg infinite] at h
    have finite : bits.toNat / 2 ^ 52 % 2048 ≠ 2047 := by
      rw [← exponentField]
      exact fun same => infinite (BitVec.eq_of_toNat_eq same)
    -- an exponent of zeros leaves out the leading bit of the mantissa
    by_cases subnormal : @UnpackedFloat.unpackExponent Format.binary64 bits = 0#11
    · rw [if_pos subnormal] at h
      have zero : bits.toNat / 2 ^ 52 % 2048 = 0 := by
        rw [← exponentField, subnormal]
        rfl
      split at h
      · cases h
      · injection h with sign same power
        have top := positive sign
        rw [subnormal, bias] at power
        refine ⟨by omega, finite, .inl ⟨zero, by omega, ?_⟩⟩
        rw [← power]
        rfl
    · rw [if_neg subnormal] at h
      have nonzero : bits.toNat / 2 ^ 52 % 2048 ≠ 0 := by
        rw [← exponentField]
        exact fun same => subnormal (BitVec.eq_of_toNat_eq same)
      injection h with sign same power
      have top := positive sign
      rw [bias, exponentField] at power
      have bound : (@UnpackedFloat.unpackMantissa Format.binary64 bits).toNat < 2 ^ 52 :=
        BitVec.isLt _
      rw [BitVec.toNat_append, BitVec.toNat_ofNat, ← Nat.shiftLeft_add_eq_or_of_lt bound] at same
      refine ⟨by omega, finite, .inr ⟨nonzero, ?_, power.symm⟩⟩
      rw [← same, mantissaField]
      rfl

/-! ## Mantissa and exponent -/

/-- The mantissa and the exponent of a positive number, the mantissa as large as it can be. -/
structure Normal (mantissa : Nat) (exponent : Int) : Prop where
  pos : 0 < mantissa
  lt : mantissa < 2 ^ 53
  least : -1074 ≤ exponent
  full : -1074 < exponent → 2 ^ 52 ≤ mantissa

/-- Whether the number below is only half as far away as the one above. -/
def isNarrow (mantissa : Nat) (exponent : Int) : Bool :=
  mantissa == 2 ^ 52 && decide (-1074 < exponent)

/-- The number is positive and finite and has this mantissa and this exponent. -/
def Unpacks (x : Float) (mantissa : Nat) (exponent : Int) : Prop :=
  ∃ pos, x.toModel.unpack = .finite .positive mantissa exponent pos

namespace Unpacks

variable {x y : Float} {mantissa mantissa' : Nat} {exponent exponent' : Int}

/-- The bits are read with the same mantissa and the same exponent. -/
theorem ofFloat_and_normal (unpacks : Unpacks x mantissa exponent) :
    ofFloat x = .finite false mantissa exponent (isNarrow mantissa exponent) ∧
      Normal mantissa exponent := by
  obtain ⟨pos, unpacked⟩ := unpacks
  obtain ⟨positive, finite, fields⟩ := fields_of_unpack unpacked
  have bits : x.toBits.toNat = x.toModel.toBits.toBitVec.toNat := rfl
  rw [← bits] at positive finite fields
  have sign : ¬ signUnit ≤ x.toBits.toNat := Nat.not_le.mpr positive
  have unit : exponentUnit = 2 ^ 52 := rfl
  have fraction : x.toBits.toNat % 2 ^ 52 < 2 ^ 52 := Nat.mod_lt _ (by decide)
  obtain ⟨zero, rfl, rfl⟩ | ⟨nonzero, rfl, rfl⟩ := fields
  · refine ⟨?_, pos, by omega, by omega, by omega⟩
    have wide : isNarrow (x.toBits.toNat % 2 ^ 52) (-1074) = false := by simp [isNarrow]
    simp only [ofFloat, unit, zero, sign, decide_false, wide]
    rfl
  · refine ⟨?_, pos, by omega, by omega, by omega⟩
    have narrow : (x.toBits.toNat % 2 ^ 52 == 0 && x.toBits.toNat / 2 ^ 52 % 2048 != 1) =
        isNarrow (2 ^ 52 + x.toBits.toNat % 2 ^ 52)
          ((x.toBits.toNat / 2 ^ 52 % 2048 : Nat) - 1075) := by
      rw [Bool.eq_iff_iff]
      simp only [isNarrow, Bool.and_eq_true, beq_iff_eq, bne_iff_ne, decide_eq_true_eq]
      omega
    simp only [ofFloat, unit, finite, nonzero, sign, decide_false, if_false, narrow]

theorem ofFloat_eq (unpacks : Unpacks x mantissa exponent) :
    ofFloat x = .finite false mantissa exponent (isNarrow mantissa exponent) :=
  unpacks.ofFloat_and_normal.1

theorem normal (unpacks : Unpacks x mantissa exponent) : Normal mantissa exponent :=
  unpacks.ofFloat_and_normal.2

/-- Positive numbers are ordered by the exponent first and then by the mantissa. -/
theorem order_of_le (unpacks : Unpacks x mantissa exponent) (unpacks' : Unpacks y mantissa' exponent')
    (le : x ≤ y) : exponent < exponent' ∨ exponent = exponent' ∧ mantissa ≤ mantissa' := by
  obtain ⟨pos, unpacked⟩ := unpacks
  obtain ⟨pos', unpacked'⟩ := unpacks'
  have below : UnpackedFloat.le x.toModel.unpack y.toModel.unpack = true := of_decide_eq_true le
  rw [unpacked, unpacked'] at below
  have order : ((compare exponent exponent').then (compare mantissa mantissa')).isLE = true :=
    below
  rwa [Ordering.isLE_then_iff_or, Int.compare_eq_lt, Int.compare_eq_eq, Nat.isLE_compare] at order

end Unpacks

/-! ## Shares -/

theorem unpacks_hundred : Unpacks 100 (100 * 2 ^ 46) (-46) := ⟨by decide, rfl⟩

/-- A number above zero and at most a hundred is finite. -/
theorem exists_unpacks_of_share {x : Float} (positive : 0 < x) (atMost : x ≤ 100) :
    ∃ mantissa exponent, Unpacks x mantissa exponent := by
  have above : UnpackedFloat.lt (.zero .positive) x.toModel.unpack = true :=
    of_decide_eq_true positive
  have below : UnpackedFloat.le x.toModel.unpack (100 : Float).toModel.unpack = true :=
    of_decide_eq_true atMost
  obtain ⟨pos, hundred⟩ := unpacks_hundred
  rw [hundred] at below
  cases unpacked : x.toModel.unpack with
  | infinity sign =>
    rw [unpacked] at above below
    cases sign with
    | negative => cases above
    | positive => cases below
  | notANumber =>
    rw [unpacked] at above
    cases above
  | zero sign =>
    rw [unpacked] at above
    cases above
  | finite sign mantissa exponent pos =>
    rw [unpacked] at above
    cases sign with
    | negative => cases above
    | positive => exact ⟨mantissa, exponent, pos, unpacked⟩

end SwapCompiler.Binary64
