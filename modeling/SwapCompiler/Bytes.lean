/-!
# Byte strings

Call data, search patterns and payloads are lists of bytes. Every header field is a
big-endian word of a fixed number of bytes: `Bytes.ofNat` writes one and `Bytes.toNat`
reads one. `ofNat` keeps the low bytes; whether these are all is what `Bytes.fits` tells,
and `fits_iff` says that the numbers below `Bytes.capacity` are those that fit.
-/

namespace SwapCompiler

/-- A byte string. -/
abbrev Bytes := List UInt8

namespace Bytes

/-- The low `width` bytes of `value`, most significant byte first. -/
def ofNat : (width value : Nat) → Bytes
  | 0, _ => []
  | width + 1, value => ofNat width (value / 256) ++ [UInt8.ofNat (value % 256)]

/-- The number written by the bytes, most significant byte first. -/
def toNat (bytes : Bytes) : Nat :=
  bytes.foldl (fun value byte => 256 * value + byte.toNat) 0

/-- How many numbers can be written in `width` bytes. -/
def capacity (width : Nat) : Nat := Nat.pow 256 width

/-- Whether `value` can be written in `width` bytes. -/
def fits : (width value : Nat) → Bool
  | 0, value => value == 0
  | width + 1, value => value < 256 || fits width (value / 256)

/-- A run of zero bytes. -/
def zeros (count : Nat) : Bytes :=
  List.replicate count 0

theorem capacity_zero : capacity 0 = 1 := rfl

theorem capacity_succ (width : Nat) : capacity (width + 1) = capacity width * 256 := rfl

theorem capacity_pos (width : Nat) : 0 < capacity width := by
  induction width with
  | zero => decide
  | succ width ih => rw [capacity_succ]; omega

theorem fits_iff {width value : Nat} : fits width value = true ↔ value < capacity width := by
  induction width generalizing value with
  | zero => simp [fits, capacity_zero]
  | succ width ih =>
    have positive := capacity_pos width
    have divided : value / 256 < capacity width ↔ value < capacity width * 256 :=
      Nat.div_lt_iff_lt_mul (by decide)
    simp only [fits, Bool.or_eq_true, decide_eq_true_eq, ih, capacity_succ, divided]
    omega

end Bytes

end SwapCompiler
