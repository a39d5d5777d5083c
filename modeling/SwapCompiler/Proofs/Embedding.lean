import SwapCompiler.Proofs.TokenWords

/-!
# Tokens embedded in call data

Tokens are embedded one after another, each behind what is there by then, and only if it does not
occur in that yet. What one embedding keeps all of them keep: the data stays in front, so that
every pattern is still found where it was, and a token that was embedded stays embedded. Embedding
the same tokens again therefore changes nothing (`Patch.embedTokens_conservative`).
-/

namespace SwapCompiler

namespace Plan

/-- The data with tokens embedded one after another. -/
def embedAll (data : Bytes) (tokens : List Bytes) : Bytes := tokens.foldl embed data

variable {data : Bytes} {tokens : List Bytes}

/-! ## One token -/

theorem embed_of_occurs {token : Bytes} (occurs : Bytes.Occurs token data) :
    embed data token = data := by
  rw [embed, if_pos (Bytes.contains_iff.mpr occurs)]

theorem occurs_embed (data token : Bytes) : Bytes.Occurs token (embed data token) :=
  Bytes.contains_iff.mp (contains_embed data token)

/-- A token adds nothing or its word. -/
theorem length_embed (data : Bytes) {token : Bytes} (twenty : token.length = 20) :
    ∃ added ≤ 1, (embed data token).length = data.length + 32 * added := by
  by_cases occurs : Bytes.Occurs token data
  · exact ⟨0, by decide, by rw [embed_of_occurs occurs, Nat.mul_zero, Nat.add_zero]⟩
  · refine ⟨1, Nat.le_refl 1, ?_⟩
    rw [embed_of_absent occurs, tokenWord, List.length_append, List.length_append,
      Bytes.length_zeros, twenty]

/-! ## All tokens -/

theorem isPrefix_embedAll (data : Bytes) (tokens : List Bytes) : data <+: embedAll data tokens := by
  induction tokens generalizing data with
  | nil => exact List.prefix_refl data
  | cons token rest ih => exact (isPrefix_embed data token).trans (ih (embed data token))

theorem occurs_embedAll {token : Bytes} (member : token ∈ tokens) :
    Bytes.Occurs token (embedAll data tokens) := by
  induction tokens generalizing data with
  | nil => cases member
  | cons first rest ih =>
    cases List.mem_cons.mp member with
    | inl same =>
      -- what comes later is put behind
      have front := isPrefix_embedAll (embed data first) rest
      rw [same]
      exact (occurs_embed data first).of_isInfix front.isInfix
    | inr later => exact ih later

/-- Tokens that occur already add nothing. -/
theorem embedAll_of_occurs (occur : ∀ token ∈ tokens, Bytes.Occurs token data) :
    embedAll data tokens = data := by
  induction tokens with
  | nil => rfl
  | cons token rest ih =>
    rw [List.forall_mem_cons] at occur
    rw [embedAll, List.foldl_cons, embed_of_occurs occur.1]
    exact ih occur.2

theorem length_embedAll (data : Bytes) (twenty : ∀ token ∈ tokens, token.length = 20) :
    ∃ added ≤ tokens.length, (embedAll data tokens).length = data.length + 32 * added := by
  induction tokens generalizing data with
  | nil => exact ⟨0, Nat.le_refl 0, rfl⟩
  | cons token rest ih =>
    rw [List.forall_mem_cons] at twenty
    obtain ⟨here, one, first⟩ := length_embed data twenty.1
    obtain ⟨behind, others, length⟩ := ih (embed data token) twenty.2
    refine ⟨here + behind, by rw [List.length_cons]; omega, ?_⟩
    rw [embedAll, List.foldl_cons, ← embedAll, length, first]
    omega

/-- The length stays the same exactly if all tokens occur already. -/
theorem length_embedAll_eq_iff :
    (embedAll data tokens).length = data.length ↔ ∀ token ∈ tokens, Bytes.Occurs token data := by
  constructor
  · intro same token member
    rw [(isPrefix_embedAll data tokens).eq_of_length same.symm]
    exact occurs_embedAll member
  · intro occur
    rw [embedAll_of_occurs occur]

end Plan

/-! ## The main statement -/

namespace Patch

/-- Embeds tokens one after another. -/
def embedTokens (data : Bytes) (tokens : List Address) : Except Fault Bytes :=
  tokens.foldlM (fun data token => embedToken data token.text) data

theorem embedTokens_eq (data : Bytes) (tokens : List Address) :
    embedTokens data tokens = .ok (Plan.embedAll data (tokens.map (·.bytes))) := by
  induction tokens generalizing data with
  | nil => rfl
  | cons token rest ih =>
    rw [embedTokens, List.foldlM_cons, embedToken_eq, Outcome.ok_bind]
    exact ih (Plan.embed data token.bytes)

/-- The data with both tokens of a leg begins with the data and holds the tokens. It is longer by
no, one or two words, by none exactly if both tokens occurred; what was found is found at the same
offset; and embedding any of the tokens again, however often, changes nothing. -/
theorem embedTokens_conservative (data : Bytes) (srcToken destToken : Address) :
    ∃ embedded added, embedTokens data [srcToken, destToken] = .ok embedded ∧
      data <+: embedded ∧
      Bytes.Occurs srcToken.bytes embedded ∧ Bytes.Occurs destToken.bytes embedded ∧
      embedded.length = data.length + 32 * added ∧ added ≤ 2 ∧
      (added = 0 ↔ Bytes.Occurs srcToken.bytes data ∧ Bytes.Occurs destToken.bytes data) ∧
      (∀ pattern index, Bytes.IsFirst pattern data index → Bytes.IsFirst pattern embedded index) ∧
      ∀ tokens : List Address, (∀ token ∈ tokens, token = srcToken ∨ token = destToken) →
        embedTokens embedded tokens = .ok embedded := by
  let tokens := [srcToken.bytes, destToken.bytes]
  have front := Plan.isPrefix_embedAll data tokens
  have srcOccurs : Bytes.Occurs srcToken.bytes (Plan.embedAll data tokens) :=
    Plan.occurs_embedAll (by simp [tokens])
  have destOccurs : Bytes.Occurs destToken.bytes (Plan.embedAll data tokens) :=
    Plan.occurs_embedAll (by simp [tokens])
  obtain ⟨added, most, length⟩ : ∃ added ≤ tokens.length,
      (Plan.embedAll data tokens).length = data.length + 32 * added :=
    Plan.length_embedAll data (by simp [tokens])
  have unchanged : data.length + 32 * added = data.length ↔
      Bytes.Occurs srcToken.bytes data ∧ Bytes.Occurs destToken.bytes data := by
    rw [← length, Plan.length_embedAll_eq_iff, List.forall_mem_cons, List.forall_mem_singleton]
  refine ⟨_, added, embedTokens_eq data _, front, srcOccurs, destOccurs, length, most,
    ⟨fun none => unchanged.mp (by omega), fun occur => ?_⟩,
    fun pattern index first => first.of_prefix front, fun tokens known => ?_⟩
  · have same := unchanged.mpr occur
    omega
  · rw [embedTokens_eq, Plan.embedAll_of_occurs]
    intro token member
    obtain ⟨again, listed, rfl⟩ := List.mem_map.mp member
    obtain rfl | rfl := known again listed
    · exact srcOccurs
    · exact destOccurs

end Patch

end SwapCompiler
