import SwapCompiler.Bytes

/-!
# First occurrence of a byte pattern

Every patch point of a payload is the offset of a pattern inside call data. The first
occurrence wins; an empty pattern occurs at offset zero of any data. `OccursAt` says what
an occurrence is, and `firstIndex?` looks for the least one.
-/

namespace SwapCompiler.Bytes

/-- The bytes of `pattern` stand in `data` from offset `index` on. -/
def OccursAt (pattern data : Bytes) (index : Nat) : Prop :=
  index + pattern.length ≤ data.length ∧ (data.drop index).take pattern.length = pattern

/-- The first occurrence of `pattern`, counting offsets from `offset`. -/
def firstIndexFrom? (pattern : Bytes) (offset : Nat) : Bytes → Option Nat
  | [] => if pattern.isEmpty then some offset else none
  | byte :: rest =>
    if pattern.isPrefixOf (byte :: rest) then some offset
    else firstIndexFrom? pattern (offset + 1) rest

/-- The offset of the first occurrence of `pattern` in `data`, if there is one. -/
def firstIndex? (pattern data : Bytes) : Option Nat :=
  firstIndexFrom? pattern 0 data

/-- Whether `pattern` occurs in `data`. -/
def contains (data pattern : Bytes) : Bool :=
  (firstIndex? pattern data).isSome

end SwapCompiler.Bytes
