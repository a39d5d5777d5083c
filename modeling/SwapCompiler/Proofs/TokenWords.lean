import SwapCompiler.Proofs.Contents
import SwapCompiler.Proofs.Patch

/-!
# The words of tokens

A token in call data is meant to stand behind twelve zero bytes, as a word. The word that is
checked ends with the token's first occurrence, whatever stands in front of it; only that there
is room for it is asked for (`Patch.balanceOffset_word_iff`). A token that is embedded at the end
of the data is found there unless an earlier occurrence comes about across the end: the data
then ends as the token begins, and the word begins with the rest of it
(`Patch.appended_found_iff`).
-/

namespace SwapCompiler

namespace Bytes

/-- Data that begins as it does behind a row of one byte repeats this byte. -/
theorem eq_of_prefix_replicate_append {byte : UInt8} {count : Nat} (some : 0 < count)
    {data : Bytes} (shifted : data <+: List.replicate count byte ++ data) :
    data = List.replicate data.length byte := by
  induction data with
  | nil => rfl
  | cons first rest ih =>
    obtain ⟨fewer, rfl⟩ : ∃ fewer, count = fewer + 1 := ⟨count - 1, by omega⟩
    rw [List.replicate_succ, List.cons_append, List.cons_prefix_cons] at shifted
    obtain ⟨rfl, behind⟩ := shifted
    -- the byte in front of the rest prolongs the row
    rw [← List.singleton_append, ← List.append_assoc, ← List.replicate_succ'] at behind
    rw [List.length_cons, List.replicate_succ, ← ih behind]

end Bytes

namespace Plan

/-- The word of a token. -/
def tokenWord (token : Bytes) : Bytes := Bytes.zeros 12 ++ token

theorem embed_of_absent {token data : Bytes} (absent : ¬ Bytes.Occurs token data) :
    embed data token = data ++ tokenWord token := by
  rw [embed, if_neg (mt Bytes.contains_iff.mp absent), tokenWord, List.append_assoc]

/-- The token's bytes also come about across the end of the data, where the word begins. -/
def Straddles (token data : Bytes) : Prop :=
  ∃ head tail, token = head ++ tail ∧ head <:+ data ∧ tail <+: tokenWord token

variable {token data : Bytes}

/-- An appended token stands at the end of its word. -/
theorem occursAt_appended (token data : Bytes) :
    Bytes.OccursAt token (data ++ tokenWord token) (data.length + 12) := by
  refine Bytes.occursAt_iff.mpr ⟨data ++ Bytes.zeros 12, [], ?_, by simp [Bytes.zeros]⟩
  rw [tokenWord, List.append_nil, List.append_assoc]

/-- Inside the zero bytes in front of it only a token of zero bytes begins. -/
theorem straddles_of_zeros {count : Nat} (some : 0 < count)
    (front : token <+: Bytes.zeros count ++ token) : Straddles token data := by
  have zeros : token = Bytes.zeros token.length := Bytes.eq_of_prefix_replicate_append some front
  refine ⟨[], token, rfl, List.nil_suffix, ?_⟩
  rw [tokenWord, zeros, Bytes.zeros, Bytes.zeros, List.replicate_append_replicate, Nat.add_comm,
    ← List.replicate_append_replicate]
  simp

/-- What is found in front of an appended token straddles the end of the data. -/
theorem exists_earlier_iff (absent : ¬ Bytes.Occurs token data) :
    (∃ index < data.length + 12, Bytes.OccursAt token (data ++ tokenWord token) index) ↔
      Straddles token data := by
  constructor
  · rintro ⟨index, before, found⟩
    by_cases inside : index ≤ data.length
    -- beginning in the data it reaches past the end, as it does not occur in the data alone
    · have ends : data.length ≤ index + token.length := by
        by_cases ends : index + token.length ≤ data.length
        · exact absurd ⟨index, (Bytes.occursAt_append_left ends).mp found⟩ absent
        · omega
      obtain ⟨rest, split, front⟩ := (Bytes.occursAt_across inside ends).mp found
      exact ⟨_, rest, split, List.drop_suffix _ _, front⟩
    -- beginning in the zero bytes of the word it is met by the word's own token
    · obtain ⟨distance, rfl⟩ := Nat.exists_eq_add_of_le (Nat.le_of_not_le inside)
      rw [Bytes.occursAt_append_right, Bytes.occursAt_iff_front, tokenWord,
        List.drop_append_of_le_length (by simp [Bytes.zeros]; omega), Bytes.zeros,
        List.drop_replicate] at found
      exact straddles_of_zeros (by omega) found.2
  · rintro ⟨head, tail, split, ends, front⟩
    obtain ⟨rest, rfl⟩ := ends
    have size : token.length = head.length + tail.length := by rw [split, List.length_append]
    refine ⟨rest.length, by rw [List.length_append]; omega, ?_⟩
    rw [Bytes.occursAt_across (by simp) (by rw [List.length_append]; omega), List.drop_left]
    exact ⟨tail, split, front⟩

/-- An appended token is found first exactly if none straddles the end. -/
theorem isFirst_appended_iff (absent : ¬ Bytes.Occurs token data) :
    Bytes.IsFirst token (data ++ tokenWord token) (data.length + 12) ↔ ¬ Straddles token data := by
  rw [← exists_earlier_iff absent, Bytes.IsFirst, and_iff_right (occursAt_appended token data)]
  simp only [not_exists, not_and]

/-- A token that ends in another byte than zero and holds no row of twelve does not straddle. -/
theorem not_straddles (absent : ¬ Bytes.Occurs token data) (last : token.getLast? ≠ some 0)
    (rows : ¬ Bytes.zeros 12 <:+: token) : ¬ Straddles token data := by
  rintro ⟨head, tail, rfl, ends, front⟩
  by_cases long : 12 ≤ tail.length
  · have row : Bytes.zeros 12 <+: tail :=
      List.prefix_of_prefix_length_le (List.prefix_append _ _) front (by simpa [Bytes.zeros] using long)
    exact rows (row.isInfix.trans (List.suffix_append _ _).isInfix)
  · have zeros : tail <+: Bytes.zeros 12 :=
      List.prefix_of_prefix_length_le front (List.prefix_append _ _) (by simp [Bytes.zeros]; omega)
    cases tail.eq_nil_or_concat' with
    | inl empty =>
      rw [empty, List.append_nil] at absent
      obtain ⟨rest, rfl⟩ := ends
      exact absent ⟨rest.length, Bytes.occursAt_iff.mpr ⟨rest, [], by simp, rfl⟩⟩
    | inr split =>
      obtain ⟨rest, byte, rfl⟩ := split
      have zero : byte = 0 := List.eq_of_mem_replicate (zeros.subset List.mem_concat_self)
      rw [← List.append_assoc, List.getLast?_concat, zero] at last
      exact last rfl

end Plan

namespace Patch

theorem findAddress_text (data : Bytes) (address : Address) (label : String) :
    findAddress data address.text label = find data address.bytes label := by
  rw [findAddress, Address.decode_text, Outcome.ok_bind]

theorem findAddress_eq_ok {data : Bytes} {address : Address} {label : String} {index : Nat} :
    findAddress data address.text label = .ok index ↔ Bytes.IsFirst address.bytes data index := by
  rw [findAddress_text, find_eq_ok_iff_isFirst]

theorem balanceOffset_of_isFirst {data : Bytes} {token : Address} {index : Nat}
    (first : Bytes.IsFirst token.bytes data index) :
    balanceOffset data token.text =
      if index < 12 then .error (Refusal.outsideWord index) else .ok (index - 12) :=
  balanceOffset_of_some token.length_bytes (Bytes.firstIndex?_eq_some.mpr first)

theorem balanceOffset_of_absent {data : Bytes} {token : Address}
    (absent : ¬ Bytes.Occurs token.bytes data) :
    balanceOffset data token.text =
      .error (Refusal.patternNotFound "balance check token" token.bytes) :=
  balanceOffset_of_none token.length_bytes (Bytes.firstIndex?_of_absent absent)

theorem balanceOffset_eq_ok {data : Bytes} {token : Address} {offset : Nat} :
    balanceOffset data token.text = .ok offset ↔
      Bytes.IsFirst token.bytes data (offset + 12) := by
  constructor
  · intro found
    by_cases occurs : Bytes.Occurs token.bytes data
    · have first := occurs.isFirst
      rw [balanceOffset_of_isFirst first] at found
      split at found
      · cases found
      · cases found
        rwa [Nat.sub_add_cancel (by omega)]
    · rw [balanceOffset_of_absent occurs] at found
      cases found
  · intro first
    rw [balanceOffset_of_isFirst first, if_neg (by omega), Nat.add_sub_cancel]

end Patch

/-! ## The main statements -/

namespace Sample

/-- A token that ends in a zero byte. -/
def zeroAtEnd : Address := ⟨"0x1111111111111111111111111111111111111100", by decide⟩

end Sample

namespace Patch

/-- The offset is that of the twelve bytes in front of the token's first occurrence, which are a
word with it exactly if they are zero. Only an occurrence without so many bytes in front is
refused, and a token that does not occur. -/
theorem balanceOffset_word_iff (data : Bytes) (token : Address) :
    (∀ offset, balanceOffset data token.text = .ok offset ↔
      Bytes.IsFirst token.bytes data (offset + 12)) ∧
    (∀ offset, balanceOffset data token.text = .ok offset →
      (Bytes.OccursAt (Plan.tokenWord token.bytes) data offset ↔
        Bytes.OccursAt (Bytes.zeros 12) data offset)) ∧
    (∀ index, balanceOffset data token.text = .error (Refusal.outsideWord index) ↔
      Bytes.IsFirst token.bytes data index ∧ index < 12) ∧
    (balanceOffset data token.text =
        .error (Refusal.patternNotFound "balance check token" token.bytes) ↔
      ¬ Bytes.Occurs token.bytes data) := by
  refine ⟨fun offset => balanceOffset_eq_ok, fun offset found => ?_, fun index => ?_, ?_⟩
  · rw [Plan.tokenWord, Bytes.occursAt_append, Bytes.length_zeros]
    exact and_iff_left (balanceOffset_eq_ok.mp found).1
  · constructor
    · intro refused
      by_cases occurs : Bytes.Occurs token.bytes data
      · have isFirst := occurs.isFirst
        rw [balanceOffset_of_isFirst isFirst] at refused
        split at refused
        · cases refused
          exact ⟨isFirst, ‹_›⟩
        · cases refused
      · rw [balanceOffset_of_absent occurs] at refused
        cases refused
    · rintro ⟨isFirst, early⟩
      rw [balanceOffset_of_isFirst isFirst, if_pos early]
  · constructor
    · rintro refused occurs
      have isFirst := occurs.isFirst
      rw [balanceOffset_of_isFirst isFirst] at refused
      split at refused <;> cases refused
    · exact balanceOffset_of_absent

/-- The only argument of a call is a word. -/
theorem balanceOffset_word_of_argument :
    balanceOffset (Abi.approveSelector ++ Plan.tokenWord Sample.token.bytes) Sample.token.text =
        .ok 4 ∧
      Bytes.OccursAt (Plan.tokenWord Sample.token.bytes)
        (Abi.approveSelector ++ Plan.tokenWord Sample.token.bytes) 4 := by
  have found : balanceOffset (Abi.approveSelector ++ Plan.tokenWord Sample.token.bytes)
      Sample.token.text = .ok 4 := by
    decide +kernel
  exact ⟨found, ((balanceOffset_word_iff _ _).2.1 4 found).mpr (by decide +kernel)⟩

/-- A token behind twelve other bytes is checked although it ends no word. -/
theorem balanceOffset_of_packed_token :
    balanceOffset (List.replicate 12 0x11 ++ Sample.token.bytes) Sample.token.text = .ok 0 ∧
      Bytes.IsFirst Sample.token.bytes (List.replicate 12 0x11 ++ Sample.token.bytes) 12 ∧
      ¬ Bytes.OccursAt (Bytes.zeros 12) (List.replicate 12 0x11 ++ Sample.token.bytes) 0 ∧
      ¬ Bytes.OccursAt (Plan.tokenWord Sample.token.bytes)
        (List.replicate 12 0x11 ++ Sample.token.bytes) 0 := by
  have found : balanceOffset (List.replicate 12 0x11 ++ Sample.token.bytes) Sample.token.text =
      .ok 0 := by
    decide +kernel
  exact ⟨found, balanceOffset_eq_ok.mp found, by decide +kernel, by decide +kernel⟩

/-- A token that does not occur in the data is appended as a word. It is found at most where it
was appended, and there exactly if it does not straddle the end of the data; a token that ends in
another byte than zero and holds no row of twelve zero bytes never does. -/
theorem appended_found_iff (data : Bytes) (token : Address)
    (absent : ¬ Bytes.Occurs token.bytes data) :
    ∃ appended, embedToken data token.text = .ok appended ∧
      appended = data ++ Plan.tokenWord token.bytes ∧
      (∀ label, ∃ index ≤ data.length + 12, findAddress appended token.text label = .ok index) ∧
      (∀ label, findAddress appended token.text label = .ok (data.length + 12) ↔
        ¬ Plan.Straddles token.bytes data) ∧
      (balanceOffset appended token.text = .ok data.length ↔
        ¬ Plan.Straddles token.bytes data) ∧
      (token.bytes.getLast? ≠ some 0 → ¬ Bytes.zeros 12 <:+: token.bytes →
        ¬ Plan.Straddles token.bytes data) := by
  refine ⟨_, by rw [embedToken_eq, Plan.embed_of_absent absent], rfl, fun label => ?_,
    fun label => ?_, ?_, Plan.not_straddles absent⟩
  · obtain ⟨first, found, bound⟩ :=
      Bytes.exists_firstIndex? (Plan.occursAt_appended token.bytes data)
    exact ⟨first, bound, findAddress_eq_ok.mpr (Bytes.firstIndex?_eq_some.mp found)⟩
  · rw [findAddress_eq_ok, Plan.isFirst_appended_iff absent]
  · rw [balanceOffset_eq_ok, Plan.isFirst_appended_iff absent]

/-- Behind a selector the token is found where it was appended. -/
theorem appended_found_behind_selector :
    ¬ Bytes.Occurs Sample.token.bytes Abi.approveSelector ∧
      ∃ appended, embedToken Abi.approveSelector Sample.token.text = .ok appended ∧
        findAddress appended Sample.token.text "token" = .ok 16 ∧
        balanceOffset appended Sample.token.text = .ok 4 := by
  have absent : ¬ Bytes.Occurs Sample.token.bytes Abi.approveSelector := by
    rw [← Bytes.contains_iff]
    decide +kernel
  obtain ⟨appended, made, -, -, found, checked, apart⟩ :=
    appended_found_iff Abi.approveSelector Sample.token absent
  have apart := apart (by decide +kernel) (by decide +kernel)
  exact ⟨absent, appended, made, (found _).mpr apart, checked.mpr apart⟩

/-- Nineteen bytes of the token at the end of the data and the first zero byte of the appended word
are the token: it is found there, and too early to be checked. -/
theorem appended_found_across_end :
    ¬ Bytes.Occurs Sample.zeroAtEnd.bytes (List.replicate 19 0x11) ∧
      ∃ appended, embedToken (List.replicate 19 0x11) Sample.zeroAtEnd.text = .ok appended ∧
        findAddress appended Sample.zeroAtEnd.text "token" = .ok 0 ∧
        balanceOffset appended Sample.zeroAtEnd.text = .error (Refusal.outsideWord 0) := by
  refine ⟨?_, List.replicate 19 0x11 ++ Plan.tokenWord Sample.zeroAtEnd.bytes, by decide +kernel,
    by decide +kernel, by decide +kernel⟩
  rw [← Bytes.contains_iff]
  decide +kernel

end Patch

end SwapCompiler
