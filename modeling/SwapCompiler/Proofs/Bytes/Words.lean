import SwapCompiler.Payload.Reader

/-!
# Words of fixed width

A number that fits its width is read back from the word that was written for it, and a
row of such words from the row of their widths, whatever stands behind.
-/

namespace SwapCompiler

namespace Bytes

@[simp] theorem length_ofNat (width value : Nat) : (ofNat width value).length = width := by
  induction width generalizing value with
  | zero => rfl
  | succ width ih => simp [ofNat, ih]

@[simp] theorem length_zeros (count : Nat) : (zeros count).length = count := by
  simp [zeros]

theorem toNat_append_singleton (bytes : Bytes) (byte : UInt8) :
    toNat (bytes ++ [byte]) = 256 * toNat bytes + byte.toNat := by
  simp [toNat, List.foldl_append]

/-- A number below the capacity of its width is read back. -/
theorem toNat_ofNat {width value : Nat} (fits : value < capacity width) :
    toNat (ofNat width value) = value := by
  induction width generalizing value with
  | zero =>
    rw [capacity_zero] at fits
    have zero : value = 0 := by omega
    rw [zero]
    rfl
  | succ width ih =>
    have high : value / 256 < capacity width := by
      rw [capacity_succ] at fits
      exact (Nat.div_lt_iff_lt_mul (by decide)).mpr fits
    have low : (UInt8.ofNat (value % 256)).toNat = value % 256 := by
      simp
    rw [ofNat, toNat_append_singleton, ih high, low]
    omega

theorem split?_append {front : Bytes} {count : Nat} (h : front.length = count) (rest : Bytes) :
    split? count (front ++ rest) = some (front, rest) := by
  subst h
  simp [split?]

end Bytes

namespace Header

@[simp] theorem unpack?_nil (bytes : Bytes) : unpack? [] bytes = some ([], bytes) := rfl

/-- The word in front is the first value. -/
theorem unpack?_word {width value : Nat} (fits : value < Bytes.capacity width)
    (widths : List Nat) (rest : Bytes) :
    unpack? (width :: widths) (Bytes.ofNat width value ++ rest) =
      (unpack? widths rest).map fun (values, behind) => (value :: values, behind) := by
  have long : ¬ (Bytes.ofNat width value ++ rest).length < width := by
    simp
  have front : (Bytes.ofNat width value ++ rest).take width = Bytes.ofNat width value :=
    List.take_left' (Bytes.length_ofNat width value)
  have back : (Bytes.ofNat width value ++ rest).drop width = rest :=
    List.drop_left' (Bytes.length_ofNat width value)
  rw [unpack?, if_neg long, front, back, Bytes.toNat_ofNat fits]

end Header

end SwapCompiler
