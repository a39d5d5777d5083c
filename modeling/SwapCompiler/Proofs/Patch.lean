import SwapCompiler.Proofs.Bytes.Search
import SwapCompiler.Proofs.Plan

/-!
# Tokens and patch points in call data

Embedding a token never fails, keeps what is there, and leaves the token in the data. A search
ends at the first place where the pattern stands, and keeps it when the data grows behind it
(`Patch.find_first_match`). The word of the checked token is found exactly when the token occurs
at byte twelve or later (`Plan.BalanceFound`); a flag that inserts no amount asks for no other
patch point.
-/

namespace SwapCompiler

namespace Plan

/-! ## Embedding -/

theorem isPrefix_embed (data token : Bytes) : data <+: embed data token := by
  unfold embed
  by_cases found : data.contains token = true
  · rw [if_pos found]
  · rw [if_neg found, List.append_assoc]
    exact List.prefix_append _ _

theorem contains_embed (data token : Bytes) : (embed data token).contains token = true := by
  unfold embed
  by_cases found : data.contains token = true
  · rwa [if_pos found]
  · rw [if_neg found]
    exact Bytes.contains_iff_isInfix.mpr (List.suffix_append _ _).isInfix

theorem dexData_contains_srcToken (leg : Leg) (template : CallTemplate) :
    (dexData leg template).contains leg.srcToken.bytes = true :=
  Bytes.contains_of_infix (isPrefix_embed _ _).isInfix (contains_embed _ _)

theorem dexData_contains_destToken (leg : Leg) (template : CallTemplate) :
    (dexData leg template).contains leg.destToken.bytes = true :=
  contains_embed _ _

/-! ## The checked token -/

/-- A token whose balance is to be checked occurs in the call data, and not too early. -/
def BalanceFound (network : Network) (leg : Leg) (template : CallTemplate) (flag : Flag) : Prop :=
  checksToken flag = true →
    ∃ index, balanceIndex? network leg template = some index ∧ 12 ≤ index

theorem balanceToken_eq (network : Network) (leg : Leg) :
    balanceToken network leg = Address.bytesOf
      (if network.isNative leg.destToken.text then network.wrappedNative
        else leg.destToken.text) := by
  unfold balanceToken
  split <;> rfl

theorem length_balanceToken {network : Network} (strict : network.Strict) (leg : Leg) :
    (balanceToken network leg).length = 20 := by
  unfold balanceToken
  split
  · exact Address.length_bytesOf strict.wrappedNative
  · exact leg.destToken.length_bytes

theorem balanceCheck_eq_destToken (flag : Flag) :
    Flag.balanceCheck flag.toInt = .destToken ↔ checksToken flag = true := by
  revert flag
  decide

end Plan

namespace Patch

theorem embedToken_eq (data : Bytes) (token : Address) :
    embedToken data token.text = .ok (Plan.embed data token.bytes) := by
  rw [embedToken, Address.decode_text, Outcome.ok_bind]
  rfl

/-! ## The search -/

theorem find_eq_ok {data pattern : Bytes} {label : String} {index : Nat} :
    find data pattern label = .ok index ↔ Bytes.firstIndex? pattern data = some index := by
  unfold find
  cases Bytes.firstIndex? pattern data with
  | none => simp
  | some first => simp

theorem find_eq_ok_iff_isFirst {data pattern : Bytes} {label : String} {index : Nat} :
    find data pattern label = .ok index ↔ Bytes.IsFirst pattern data index := by
  rw [find_eq_ok, Bytes.firstIndex?_eq_some]

theorem find_of_isFirst {data pattern : Bytes} {index : Nat}
    (first : Bytes.IsFirst pattern data index) (label : String) :
    find data pattern label = .ok index :=
  find_eq_ok_iff_isFirst.mpr first

theorem find_of_absent {data pattern : Bytes} (absent : ¬ Bytes.Occurs pattern data)
    (label : String) :
    find data pattern label = .error (Refusal.patternNotFound label pattern) := by
  rw [find, Bytes.firstIndex?_of_absent absent]

theorem find_eq_error_iff {data pattern : Bytes} {label : String} :
    find data pattern label = .error (Refusal.patternNotFound label pattern) ↔
      ¬ Bytes.Occurs pattern data := by
  constructor
  · intro refused occurs
    rw [find_of_isFirst occurs.isFirst] at refused
    cases refused
  · intro absent
    exact find_of_absent absent label

/-- The search gives the first offset at which the pattern is a part of the data, and is refused
exactly if there is none. Bytes behind the data change nothing. Bytes in front move the offset by
their number at most, and by exactly so many unless the pattern begins among them. -/
theorem find_first_match (data pattern : Bytes) (label : String) :
    (∀ index, find data pattern label = .ok index ↔
      data.extract index (index + pattern.length) = pattern ∧
        ∀ earlier < index, data.extract earlier (earlier + pattern.length) ≠ pattern) ∧
    (find data pattern label = .error (Refusal.patternNotFound label pattern) ↔
      ∀ index, data.extract index (index + pattern.length) ≠ pattern) ∧
    ∀ index, find data pattern label = .ok index →
      (∀ back, find (data ++ back) pattern label = .ok index) ∧
      ∀ front, ∃ shifted ≤ front.length + index,
        find (front ++ data) pattern label = .ok shifted ∧
        (shifted = front.length + index ↔ ∀ start < front.length,
          (front ++ data).extract start (start + pattern.length) ≠ pattern) := by
  refine ⟨fun index => ?_, ?_, fun index found => ?_⟩
  · rw [find_eq_ok_iff_isFirst, Bytes.isFirst_iff_extract]
  · rw [find_eq_error_iff, Bytes.occurs_iff_extract, not_exists]
  · have first := find_eq_ok_iff_isFirst.mp found
    refine ⟨fun back => ?_, fun front => ?_⟩
    · exact find_eq_ok_iff_isFirst.mpr (first.of_prefix (List.prefix_append data back))
    · obtain ⟨shifted, most, moved, apart⟩ := first.append_left front
      refine ⟨shifted, most, find_eq_ok_iff_isFirst.mpr moved, apart.trans ?_⟩
      have inside {start : Nat} (before : start < front.length) :
          start ≤ (front ++ data).length := by
        rw [List.length_append]
        omega
      exact forall₂_congr fun start before => not_congr (Bytes.occursAt_iff_extract (inside before))

/-- A pair of equal bytes is found behind another byte where it was, only later, and behind an
equal one across the beginning of the data. -/
theorem find_first_match_of_overlap :
    find [7, 7] [7, 7] "pair" = .ok 0 ∧ find ([7, 7] ++ [7, 9]) [7, 7] "pair" = .ok 0 ∧
      find ([9] ++ [7, 7]) [7, 7] "pair" = .ok 1 ∧ find ([7] ++ [7, 7]) [7, 7] "pair" = .ok 0 := by
  have found : find [7, 7] [7, 7] "pair" = .ok 0 := by decide
  obtain ⟨-, -, moves⟩ := find_first_match [7, 7] [7, 7] "pair"
  obtain ⟨behind, inFront⟩ := moves 0 found
  refine ⟨found, behind [7, 9], ?_, ?_⟩
  · obtain ⟨shifted, -, moved, apart⟩ := inFront [9]
    rw [apart.mpr (by decide)] at moved
    exact moved
  · obtain ⟨shifted, most, moved, apart⟩ := inFront [7]
    have across : shifted ≠ 1 := fun one => absurd (apart.mp one) (by decide)
    obtain rfl : shifted = 0 := by
      rw [List.length_singleton] at most
      omega
    exact moved

/-! ## Patch points -/

/-- The start of the word that ends with the token. -/
theorem balanceOffset_follows (data : Bytes) (token : String) :
    Follows (∃ index, Bytes.firstIndex? (Address.bytesOf token) data = some index ∧ 12 ≤ index)
      (balanceOffset data token)
      (∃ index, Bytes.firstIndex? (Address.bytesOf token) data = some index ∧ 12 ≤ index)
      ((Bytes.firstIndex? (Address.bytesOf token) data).getD 0 - 12) := by
  have made (found : ∃ index, Bytes.firstIndex? (Address.bytesOf token) data = some index ∧
      12 ≤ index) :
      balanceOffset data token =
        .ok ((Bytes.firstIndex? (Address.bytesOf token) data).getD 0 - 12) := by
    obtain ⟨index, found, late⟩ := found
    have read : Address.decode token = .ok (Address.bytesOf token) := by
      cases read : Address.decode token with
      | ok bytes => rw [Address.bytesOf_eq read]
      | error fault =>
        -- a text that is no address has no bytes, and those are found at once
        rw [Address.bytesOf_eq_nil read, Bytes.firstIndex?_nil] at found
        cases found
        cases late
    have inside : ¬ index < Abi.addressPadding := Nat.not_lt.mpr late
    simp only [balanceOffset, findAddress, read, Outcome.ok_bind, find_eq_ok.mpr found, found,
      if_neg inside, Option.getD_some]
    rfl
  refine ⟨fun offset h => ?_, fun _ found => made found, fun found => .of_ok (made found)⟩
  have found : ∃ index, Bytes.firstIndex? (Address.bytesOf token) data = some index ∧
      12 ≤ index := by
    simp only [balanceOffset, findAddress, Outcome.bind_eq_ok, find_eq_ok] at h
    obtain ⟨index, ⟨bytes, read, found⟩, h⟩ := h
    rw [Address.bytesOf_eq read]
    refine ⟨index, found, ?_⟩
    unfold Abi.addressPadding at h
    split at h
    · cases h
    · omega
  rw [made found] at h
  exact ⟨found, Except.ok.inj h⟩

/-- A token that does not occur cannot be checked. -/
theorem balanceOffset_of_none {data : Bytes} {token : String}
    (length : (Address.bytesOf token).length = 20)
    (none : Bytes.firstIndex? (Address.bytesOf token) data = none) :
    balanceOffset data token =
      .error (Refusal.patternNotFound "balance check token" (Address.bytesOf token)) := by
  simp only [balanceOffset, findAddress, find, Address.decode_of_length length, Outcome.ok_bind,
    none, Outcome.error_bind]

/-- A token that occurs is checked unless it stands too early. -/
theorem balanceOffset_of_some {data : Bytes} {token : String} {index : Nat}
    (length : (Address.bytesOf token).length = 20)
    (found : Bytes.firstIndex? (Address.bytesOf token) data = some index) :
    balanceOffset data token =
      if index < 12 then .error (Refusal.outsideWord index) else .ok (index - 12) := by
  simp only [balanceOffset, findAddress, find, Address.decode_of_length length, Outcome.ok_bind,
    found]
  rfl

/-- The patch points of a flag that inserts no amount. -/
theorem resolve_follows (network : Network) (leg : Leg) (template : CallTemplate) {flag : Flag}
    (plain : Flag.insertsAmount flag.toInt = false) (srcAmount destAmount : Int) :
    Follows (Plan.BalanceFound network leg template flag)
      (resolve (Plan.dexData leg template) flag.toInt
        (if network.isNative leg.destToken.text then network.wrappedNative
          else leg.destToken.text) srcAmount destAmount)
      (Plan.BalanceFound network leg template flag)
      ⟨0, 0, Plan.balancePos network leg template flag⟩ := by
  have token := Plan.balanceToken_eq network leg
  simp only [resolve, plain, Bool.false_eq_true, if_false, Plan.balanceCheck_eq_destToken]
  by_cases checks : Plan.checksToken flag = true
  · have found : Plan.BalanceFound network leg template flag ↔
        ∃ index, Plan.balanceIndex? network leg template = some index ∧ 12 ≤ index :=
      forall_prop_of_true checks
    rw [found, Plan.balancePos, if_pos checks, if_pos checks, Plan.balanceIndex?, token]
    exact (balanceOffset_follows _ _).bind_pure (Points.mk 0 0)
  · have found : Plan.BalanceFound network leg template flag :=
      fun h => absurd h checks
    rw [Plan.balancePos, if_neg checks, if_neg checks, pure_bind]
    exact (Follows.ok _).congr (fun _ => found) fun _ _ => trivial

end Patch

end SwapCompiler
