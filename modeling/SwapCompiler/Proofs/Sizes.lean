import SwapCompiler.Proofs.Compiler
import SwapCompiler.Proofs.Percentage

/-!
# How large a payload is

On strict addresses and shares of at most a hundred percent, whether a leg fits its headers
is a matter of sizes: those of its call data and of its calls in all, and the position of the
checked token. All other values of the headers are small (`Plan.legFits_iff`).
-/

namespace SwapCompiler

/-- The share of the leg is above zero and at most a hundred percent. -/
def Leg.IsShare (leg : Leg) : Prop := 0 < leg.percent ∧ leg.percent ≤ 100

namespace Plan

variable {network : Network} {wraps : Option WrapTemplates} {ordered : List OrderedLeg}
  {position : Nat} {current : OrderedLeg}

/-! ## Targets -/

theorem length_target_of_mem_calls (strict : network.Strict) {call : Call}
    (h : call ∈ calls network wraps ordered position current) : call.target.length = 20 := by
  obtain ⟨token, rfl | rfl, rfl⟩ | ⟨template, -, rfl⟩ | rfl | ⟨-, h⟩ := mem_calls h
  · exact Address.length_bytesOf strict.wrappedNative
  · exact Address.length_bytes _
  · exact Address.length_bytes _
  · exact Address.length_bytes _
  · obtain ⟨-, rfl⟩ | ⟨template, -, rfl⟩ | rfl := mem_cleanUp h
    · exact Address.length_bytes _
    · exact Address.length_bytes _
    · rfl

/-! ## Values of a leg's header -/

theorem offsetOf_le (pattern data : Bytes) : offsetOf pattern data ≤ data.length := by
  unfold offsetOf
  cases found : Bytes.firstIndex? pattern data with
  | none => exact Nat.zero_le _
  | some index => exact Nat.le_trans (Nat.le_add_right _ _) (Bytes.le_length_of_firstIndex? found)

theorem hundredths_le {leg : Leg} (share : leg.IsShare) :
    leg.ShareRead ∧ hundredths leg ≤ 10000 := by
  obtain ⟨n, encoded, -, most⟩ := Percentage.encode_share share.1 share.2
  exact ⟨⟨n, encoded⟩, by rw [hundredths_eq encoded]; exact most⟩

/-- The sizes of a leg are below 4 GiB, and the checked token stands early enough. -/
structure SizesFit (network : Network) (wraps : Option WrapTemplates) (ordered : List OrderedLeg)
    (position : Nat) (current : OrderedLeg) : Prop where
  data : ∀ call ∈ calls network wraps ordered position current, call.data.length < 2 ^ 32
  body : (Call.encodeAll (calls network wraps ordered position current)).length < 2 ^ 32
  balancePos : balancePos network current.leg current.template current.flags.dex < 2 ^ 16

theorem legFits_iff (regular : LegRegular network current) (share : current.leg.IsShare) :
    LegFits network wraps ordered position current ↔
      SizesFit network wraps ordered position current := by
  constructor
  · rintro ⟨dex, -, -, frame⟩
    exact ⟨fun call h => (frame.calls call h).data, frame.size, dex.balancePos⟩
  · rintro ⟨data, body, balance⟩
    have fits : ∀ call ∈ calls network wraps ordered position current, call.Fits :=
      fun call h => ⟨length_target_of_mem_calls regular.strict h, data call h⟩
    have small : (2 : Nat) ^ 32 ≤ Bytes.capacity 8 := by decide
    refine ⟨⟨regular.amounts, regular.balanceFound, balance, fits _ (by simp [calls])⟩,
      fun _ _ => Address.length_bytesOf regular.strict.receiver, regular.share,
      body, ?_, ?_, ?_, ?_, fits⟩
    · simp only [frame]
      split <;> decide
    · exact Nat.lt_of_le_of_lt (offsetOf_le _ _) (Nat.lt_of_lt_of_le body small)
    · exact Nat.lt_of_le_of_lt (offsetOf_le _ _) (Nat.lt_of_lt_of_le body small)
    · exact Nat.lt_of_le_of_lt (hundredths_le share).2 (by decide)

end Plan

end SwapCompiler
