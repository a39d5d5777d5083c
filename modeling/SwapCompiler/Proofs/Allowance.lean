import Mathlib
import SwapCompiler.Proofs.Call
import SwapCompiler.Proofs.Contents
import SwapCompiler.Proofs.PatchPoints

/-!
# The allowance as the patch point

An approval whose flag inserts the amount is patched where its amount is found first. The
amount stands behind the selector and the spender, from byte 36 on, but its word may begin
earlier: if the spender ends in the byte that the amount repeats, say. The patch point is the
allowance exactly if it does not, and then a patched call approves the same spender
(`Call.approve_patches_allowance_iff`).
-/

namespace SwapCompiler

namespace Bytes

/-- A word of one byte occurs where all bytes are that one. -/
theorem occursAt_replicate {data : Bytes} {byte : UInt8} {count index : Nat} :
    OccursAt (List.replicate count byte) data index ↔
      index + count ≤ data.length ∧
        ∀ position, index ≤ position → position < index + count → data[position]? = some byte := by
  rw [OccursAt, List.length_replicate]
  refine and_congr_right fun inside => ?_
  constructor
  · intro same position after before
    have found : ((data.drop index).take count)[position - index]? = some byte := by
      rw [same, List.getElem?_replicate, if_pos (by omega)]
    rwa [List.getElem?_take, if_pos (by omega), List.getElem?_drop,
      Nat.add_sub_cancel' after] at found
  · intro all
    apply List.ext_getElem?
    intro distance
    rw [List.getElem?_take, List.getElem?_replicate, List.getElem?_drop]
    split
    · exact all _ (by omega) (by omega)
    · rfl

/-- The data with a word written over it from a position on. -/
def overwrite (data : Bytes) (position : Nat) (word : Bytes) : Bytes :=
  data.take position ++ word ++ data.drop (position + word.length)

/-- A word that is written over another one of its length takes its place. -/
theorem overwrite_append {front old word : Bytes} (same : word.length = old.length) :
    overwrite (front ++ old) front.length word = front ++ word := by
  rw [overwrite, List.take_left, same, ← List.length_append, List.drop_length, List.append_nil]

theorem getElem?_overwrite {data word : Bytes} {position : Nat} (inside : position ≤ data.length)
    (some : word ≠ []) : (overwrite data position word)[position]? = word.head? := by
  have front : (data.take position).length = position := by
    rw [List.length_take, Nat.min_eq_left inside]
  rw [overwrite, List.append_assoc, List.getElem?_append_right (by omega), front, Nat.sub_self,
    List.getElem?_append_left (List.length_pos_of_ne_nil some), List.head?_eq_getElem?]

/-- Words that are written over data, each leaving all but itself as it is, are written behind
what is left. -/
theorem le_of_overwrite {data front : Bytes} {position : Nat} (inside : position ≤ data.length)
    (kept : ∀ word : Bytes, word.length = 32 → overwrite data position word = front ++ word) :
    front.length ≤ position := by
  by_contra before
  -- the byte at the position is both that of the front and the first of any word
  have first (byte : UInt8) : front[position]? = some byte := by
    have written := kept (List.replicate 32 byte) List.length_replicate
    have found := @getElem?_overwrite data (List.replicate 32 byte) position inside (by simp)
    rw [written, List.getElem?_append_left (by omega)] at found
    rw [found]
    rfl
  have equal := (first 0).symm.trans (first 1)
  cases equal

end Bytes

namespace Plan

/-- The call data of an approval. -/
def allowance (spender word : Bytes) : Bytes :=
  Abi.approveSelector ++ Bytes.zeros 12 ++ spender ++ word

theorem length_allowance_front {spender : Bytes} (length : spender.length = 20) :
    (Abi.approveSelector ++ Bytes.zeros 12 ++ spender).length = 36 := by
  simp [Abi.approveSelector, length]

theorem length_allowance {spender word : Bytes} (length : spender.length = 20) :
    (allowance spender word).length = 36 + word.length := by
  rw [allowance, List.length_append, length_allowance_front length]

/-- Approves a spender for an amount that is patched at a position. -/
def approval (token spender : Bytes) (amount : Nat) (position flag : UInt16) : Call where
  target := token
  fromAmountPos := position
  balanceCheckPos := 0
  toAmountPos := 0
  specialDex := 0
  flag := flag
  data := allowance spender (Bytes.ofNat 32 amount)

end Plan

namespace Sample

/-- A spender whose last byte is that of the greatest amount. -/
def allOnesAtEnd : Address := ⟨"0x11111111111111111111111111111111111111ff", by decide⟩

end Sample

namespace Call

/-- The call data with a word written over it from the patch point on. -/
def patched (call : Call) (word : Bytes) : Bytes :=
  Bytes.overwrite call.data call.fromAmountPos.toNat word

variable {spender word : Bytes}

/-- The amount occurs behind the spender, if not earlier. -/
theorem exists_firstIndex?_allowance (word : Bytes) (length : spender.length = 20) :
    ∃ first, Bytes.firstIndex? word (Plan.allowance spender word) = some first ∧ first ≤ 36 := by
  apply Bytes.exists_firstIndex?
  refine Bytes.occursAt_iff.mpr ⟨_, [], ?_, Plan.length_allowance_front length⟩
  rw [List.append_nil, Plan.allowance]

/-- The search ends at the allowance if the word does not occur before. -/
theorem eq_allowance_iff {first : Nat} (length : spender.length = 20)
    (found : Bytes.firstIndex? word (Plan.allowance spender word) = some first) :
    first = 36 ↔ ∀ index < 36, ¬ Bytes.OccursAt word (Plan.allowance spender word) index := by
  have least := Bytes.firstIndex?_eq_some.mp found
  constructor
  · rintro rfl
    exact least.2
  · intro fresh
    obtain ⟨other, found', bound⟩ := exists_firstIndex?_allowance word length
    rw [found] at found'
    cases found'
    by_contra different
    exact fresh first (by omega) least.1

/-- An amount that repeats one byte does not occur before the allowance exactly if the spender
ends in another byte. -/
theorem fresh_replicate_iff (length : spender.length = 20) (byte : UInt8) :
    (∀ index < 36, ¬ Bytes.OccursAt (List.replicate 32 byte)
        (Plan.allowance spender (List.replicate 32 byte)) index) ↔
      spender.getLast? ≠ some byte := by
  have front := Plan.length_allowance_front length
  have size : (Plan.allowance spender (List.replicate 32 byte)).length = 68 := by
    rw [Plan.length_allowance length, List.length_replicate]
  have last : (Plan.allowance spender (List.replicate 32 byte))[35]? = spender.getLast? := by
    have some : spender ≠ [] := List.ne_nil_of_length_pos (by omega)
    rw [Plan.allowance, List.getElem?_append_left (by omega),
      ← List.getLast?_append_of_ne_nil _ some, List.getLast?_eq_getElem?, front]
  simp only [Bytes.occursAt_replicate, size]
  constructor
  · intro fresh same
    refine fresh 35 (by decide) ⟨by decide, fun position after before => ?_⟩
    obtain rfl | behind := Nat.eq_or_lt_of_le after
    · rw [last, same]
    · rw [Plan.allowance, List.getElem?_append_right (by omega), List.getElem?_replicate,
        if_pos (by omega)]
  · rintro differs index before ⟨-, all⟩
    rcases Nat.lt_or_ge index 4 with early | late
    · -- an occurrence that begins in the selector goes on behind it, where other bytes stand
      have selector := all 3 (by omega) (by omega)
      have padding := all 4 (by omega) (by omega)
      have equal : some (0xb3 : UInt8) = some 0 := selector.trans padding.symm
      cases equal
    · exact differs (last ▸ all 35 (by omega) (by omega))

/-- Any word can be written over the allowance if that is the patch point, and only then. -/
theorem patched_eq_allowance_iff {call : Call} (length : spender.length = 20)
    (size : word.length = 32) (data : call.data = Plan.allowance spender word)
    (bound : call.fromAmountPos.toNat ≤ 36) :
    call.fromAmountPos.toNat = 36 ↔
      ∀ other : Bytes, other.length = 32 → call.patched other = Plan.allowance spender other := by
  have front := Plan.length_allowance_front length
  constructor
  · intro position other same
    rw [patched, position, data, Plan.allowance, ← front]
    exact Bytes.overwrite_append (same.trans size.symm)
  · intro kept
    have inside : call.fromAmountPos.toNat ≤ call.data.length := by
      rw [data, Plan.length_allowance length]
      omega
    have behind := Bytes.le_of_overwrite inside kept
    omega

/-- What an approval whose flag inserts the amount is made of. -/
theorem approve_eq_approval (spender token : Address) {amount flag first : Nat}
    (small : amount ≤ Abi.maxWord) (field : flag < UInt16.size)
    (inserts : Flag.insertsAmount flag = true)
    (found : Bytes.firstIndex? (Bytes.ofNat 32 amount)
      (Plan.allowance spender.bytes (Bytes.ofNat 32 amount)) = some first) (bound : first ≤ 36) :
    approve spender.text token.text amount flag =
      .ok (Plan.approval token.bytes spender.bytes amount (.ofNat first) (.ofNat flag)) := by
  let planned := Plan.approval token.bytes spender.bytes amount (.ofNat first) (.ofNat flag)
  have word : Abi.word amount = .ok (Bytes.ofNat 32 amount) := by
    rw [Abi.word, if_pos ⟨by omega, small⟩]
    rfl
  have data : Abi.approve spender.text amount =
      .ok (Plan.allowance spender.bytes (Bytes.ofNat 32 amount)) :=
    (tokenCall_follows _ _ small).complete spender.length_bytes spender.length_bytes
  have size : planned.data.length = 68 := by
    calc planned.data.length
        = 36 + (Bytes.ofNat 32 amount).length := Plan.length_allowance spender.length_bytes
      _ = 68 := by rw [Bytes.length_ofNat]
  have position : planned.fromAmountPos.toNat = first :=
    UInt16.toNat_ofNat_of_lt (Nat.lt_of_le_of_lt bound (by decide))
  have flagKept : planned.flag.toNat = flag := UInt16.toNat_ofNat_of_lt field
  have call := (make_follows planned rfl).complete token.length_bytes
    ⟨token.length_bytes, by rw [size]; decide⟩
  rw [position, flagKept] at call
  simp only [approve, data, word, Patch.find_eq_ok.mpr found, inserts, if_true, Outcome.ok_bind]
  exact call

/-- An approval of any amount whose flag inserts it is made, and its patch point is the
allowance exactly if the word of the amount does not occur before it. Exactly then the call
approves the same spender whatever word it is patched with. For the greatest amount this is so
if the spender ends in any byte but `0xff`. -/
theorem approve_patches_allowance_iff (spender token : Address) {amount flag : Int}
    (range : 0 ≤ amount ∧ amount < 2 ^ 256) (field : 0 ≤ flag ∧ flag < 2 ^ 16)
    (inserts : Flag.insertsAmount flag = true) :
    ∃ call, approve spender.text token.text amount flag = .ok call ∧
      call.target = token.bytes ∧ call.flag.toNat = flag ∧
      call.data = Plan.allowance spender.bytes (Bytes.ofNat 32 amount.toNat) ∧
      (call.fromAmountPos = 36 ↔
        ∀ index < 36, ¬ Bytes.OccursAt (Bytes.ofNat 32 amount.toNat) call.data index) ∧
      (call.fromAmountPos = 36 ↔
        ∀ word : Bytes, word.length = 32 →
          call.patched word = Plan.allowance spender.bytes word) ∧
      (amount = Abi.maxWord → (call.fromAmountPos = 36 ↔ spender.bytes.getLast? ≠ some 0xff)) := by
  obtain ⟨amount, rfl⟩ := Int.eq_ofNat_of_zero_le range.1
  obtain ⟨flag, rfl⟩ := Int.eq_ofNat_of_zero_le field.1
  have small : amount ≤ Abi.maxWord := by
    have most : Abi.maxWord = 2 ^ 256 - 1 := by decide
    omega
  have field : flag < UInt16.size := by exact_mod_cast field.2
  obtain ⟨first, found, bound⟩ :=
    exists_firstIndex?_allowance (Bytes.ofNat 32 amount) spender.length_bytes
  let planned := Plan.approval token.bytes spender.bytes amount (.ofNat first) (.ofNat flag)
  have position : planned.fromAmountPos.toNat = first :=
    UInt16.toNat_ofNat_of_lt (Nat.lt_of_le_of_lt bound (by decide))
  have isAllowance : planned.fromAmountPos = 36 ↔ first = 36 := by
    rw [← UInt16.toNat_inj, position]
    rfl
  refine ⟨planned, approve_eq_approval spender token small field inserts found bound, rfl,
    congrArg Nat.cast (UInt16.toNat_ofNat_of_lt field), rfl, ?_, ?_, fun greatest => ?_⟩
  · rw [isAllowance]
    exact eq_allowance_iff spender.length_bytes found
  · rw [isAllowance, ← position]
    exact patched_eq_allowance_iff spender.length_bytes (Bytes.length_ofNat 32 amount) rfl
      (by rw [position]; exact bound)
  · have repeats : Bytes.ofNat 32 amount = List.replicate 32 0xff := by
      rw [Int.ofNat_inj.mp greatest]
      decide +kernel
    rw [repeats] at found
    rw [isAllowance, eq_allowance_iff spender.length_bytes found,
      fresh_replicate_iff spender.length_bytes]

theorem approve_patches_allowance_of_default :
    ∃ call, approve Sample.exchange.text Sample.token.text Abi.maxWord 11 = .ok call ∧
      call.fromAmountPos = 36 ∧
      ∀ word : Bytes, word.length = 32 →
        call.patched word = Plan.allowance Sample.exchange.bytes word := by
  obtain ⟨call, made, -, -, -, -, patched, greatest⟩ :=
    @approve_patches_allowance_iff Sample.exchange Sample.token Abi.maxWord 11
      (by decide +kernel) (by decide) (by decide)
  have position : call.fromAmountPos = 36 := (greatest rfl).mpr (by decide +kernel)
  exact ⟨call, made, position, patched.mp position⟩

/-- If the spender ends in the byte that the amount repeats, the word that is patched begins
with that byte, and a patched call approves another spender. -/
theorem approve_patches_spender :
    (0 : Int) ≤ Abi.maxWord ∧ (Abi.maxWord : Int) < 2 ^ 256 ∧ Flag.insertsAmount 11 = true ∧
      ∃ call, approve Sample.allOnesAtEnd.text Sample.token.text Abi.maxWord 11 = .ok call ∧
        call.fromAmountPos = 35 ∧
        (call.patched (Bytes.zeros 32)).take 36 ≠ call.data.take 36 := by
  have made : (approve Sample.allOnesAtEnd.text Sample.token.text Abi.maxWord 11).toOption.any
      (fun call => call.fromAmountPos = 35 ∧
        (call.patched (Bytes.zeros 32)).take 36 ≠ call.data.take 36) = true := by
    decide +kernel
  obtain ⟨call, made, early⟩ := Outcome.exists_of_any made
  rw [decide_eq_true_eq] at early
  exact ⟨by decide, by decide, by decide, call, made, early⟩

end Call

end SwapCompiler
