import SwapCompiler.Proofs.Header
import SwapCompiler.Proofs.Plan

/-!
# The calls that are made

Every maker of a call gives the planned call or fails, and it gives it exactly when the
call fits its header (`Call.Fits`). On strict addresses a header that is too narrow is the
only thing that can go wrong.
-/

namespace SwapCompiler

namespace Call

/-! ## Any call -/

/-- A position that is written in two bytes. -/
def IsPosition (value : Int) : Prop := 0 ≤ value ∧ value.toNat < Bytes.capacity 2

/-- A call is made exactly when every value fits its field. -/
theorem make_eq_ok {target : String} {data : Bytes}
    {fromAmountPos balanceCheckPos specialDex flag toAmountPos : Int} {call : Call} :
    make target data fromAmountPos balanceCheckPos specialDex flag toAmountPos = .ok call ↔
      ((Address.bytesOf target).length = 20 ∧ data.length < Bytes.capacity 4 ∧
        IsPosition fromAmountPos ∧ IsPosition balanceCheckPos ∧ IsPosition toAmountPos ∧
        (0 ≤ specialDex ∧ specialDex.toNat < Bytes.capacity 1) ∧ IsPosition flag) ∧
      ⟨Address.bytesOf target, .ofNat fromAmountPos.toNat, .ofNat balanceCheckPos.toNat,
        .ofNat toAmountPos.toNat, .ofNat specialDex.toNat, .ofNat flag.toNat, data⟩ = call := by
  simp only [make, Outcome.bind_eq_ok, Header.fit_eq_ok, IsPosition]
  constructor
  · rintro ⟨bytes, read, _, ⟨⟨-, -, size⟩, -⟩, _, ⟨⟨from₀, -, from₁⟩, rfl⟩,
      _, ⟨⟨balance₀, -, balance₁⟩, rfl⟩, _, ⟨⟨to₀, -, to₁⟩, rfl⟩,
      _, ⟨⟨special₀, -, special₁⟩, rfl⟩, _, ⟨⟨flag₀, -, flag₁⟩, rfl⟩, made⟩
    by_cases length : bytes.length = 20
    · rw [if_pos length, Outcome.pure_eq_ok] at made
      rw [Address.bytesOf_eq read]
      exact ⟨⟨length, size, ⟨from₀, from₁⟩, ⟨balance₀, balance₁⟩, ⟨to₀, to₁⟩,
        ⟨special₀, special₁⟩, flag₀, flag₁⟩, made⟩
    · rw [if_neg length] at made
      cases made
  · rintro ⟨⟨length, size, ⟨from₀, from₁⟩, ⟨balance₀, balance₁⟩, ⟨to₀, to₁⟩,
      ⟨special₀, special₁⟩, flag₀, flag₁⟩, rfl⟩
    refine ⟨_, Address.decode_of_length length, _, ⟨⟨by omega, by decide, size⟩, rfl⟩,
      _, ⟨⟨from₀, by decide, from₁⟩, rfl⟩, _, ⟨⟨balance₀, by decide, balance₁⟩, rfl⟩,
      _, ⟨⟨to₀, by decide, to₁⟩, rfl⟩, _, ⟨⟨special₀, by decide, special₁⟩, rfl⟩,
      _, ⟨⟨flag₀, by decide, flag₁⟩, rfl⟩, ?_⟩
    rw [if_pos length]
    rfl

/-- The data of a call stands in the calls as it is. -/
theorem data_infix_encodeAll {call : Call} {calls : List Call} (member : call ∈ calls) :
    call.data <:+: encodeAll calls := by
  obtain ⟨front, back, rfl⟩ := List.append_of_mem member
  rw [encodeAll, List.flatMap_append, List.flatMap_cons, encode]
  exact (List.suffix_append _ _).isInfix.trans
    ((List.prefix_append _ _).isInfix.trans (List.suffix_append _ _).isInfix)

/-- A call to an address of twenty bytes can only fail for a header that is too narrow. -/
theorem make_onlyOverflows {target : String} (length : (Address.bytesOf target).length = 20)
    (data : Bytes) (fromAmountPos balanceCheckPos specialDex flag toAmountPos : Int) :
    OnlyOverflows
      (make target data fromAmountPos balanceCheckPos specialDex flag toAmountPos) := by
  rw [make, Address.decode_of_length length, Outcome.ok_bind]
  refine .bind (Header.fit_onlyOverflows (by decide) _ _) fun _ _ => ?_
  refine .bind (Header.fit_onlyOverflows (by decide) _ _) fun _ _ => ?_
  refine .bind (Header.fit_onlyOverflows (by decide) _ _) fun _ _ => ?_
  refine .bind (Header.fit_onlyOverflows (by decide) _ _) fun _ _ => ?_
  refine .bind (Header.fit_onlyOverflows (by decide) _ _) fun _ _ => ?_
  refine .bind (Header.fit_onlyOverflows (by decide) _ _) fun _ _ => ?_
  rw [if_pos length]
  exact .ok _

/-- A call with the values of a planned one follows the plan. -/
theorem make_follows {text : String} (planned : Call)
    (target : Address.bytesOf text = planned.target) :
    Follows (planned.target.length = 20)
      (make text planned.data planned.fromAmountPos.toNat planned.balanceCheckPos.toNat
        planned.specialDex.toNat planned.flag.toNat planned.toAmountPos.toNat)
      planned.Fits planned where
  sound call h := by
    obtain ⟨⟨length, size, -⟩, rfl⟩ := make_eq_ok.mp h
    rw [target] at length ⊢
    refine ⟨⟨length, size⟩, ?_⟩
    simp
  complete _ fits := by
    have position (value : UInt16) : IsPosition value.toNat :=
      ⟨by omega, toNat_lt_capacity_two value⟩
    rw [make_eq_ok, target]
    refine ⟨⟨fits.target, fits.data, position _, position _, position _,
      ⟨by omega, toNat_lt_capacity_one _⟩, position _⟩, ?_⟩
    simp
  overflows length := by
    apply make_onlyOverflows
    rw [target, length]

/-! ## The calls around a dex call -/

theorem word_natCast {amount : Nat} (word : amount ≤ Abi.maxWord) :
    Abi.word amount = .ok (Bytes.ofNat 32 amount) := by
  rw [Abi.word, if_pos ⟨by omega, word⟩]
  rfl

/-- What `approve` and `transfer` have as call data. -/
theorem tokenCall_follows (selector : Bytes) (account : String) {amount : Nat}
    (word : amount ≤ Abi.maxWord) :
    Follows ((Address.bytesOf account).length = 20) (Abi.tokenCall selector account amount)
      ((Address.bytesOf account).length = 20)
      (selector ++ Bytes.zeros 12 ++ Address.bytesOf account ++ Bytes.ofNat 32 amount) := by
  have made (length : (Address.bytesOf account).length = 20) :
      Abi.tokenCall selector account amount =
        .ok (selector ++ Bytes.zeros 12 ++ Address.bytesOf account ++ Bytes.ofNat 32 amount) := by
    simp only [Abi.tokenCall, Address.decode_of_length length, Abi.addressWord, length, if_true,
      Outcome.ok_bind, word_natCast word, Abi.addressPadding, List.append_assoc]
    rfl
  refine ⟨fun data h => ?_, fun _ length => made length, fun length => .of_ok (made length)⟩
  have length : (Address.bytesOf account).length = 20 := by
    simp only [Abi.tokenCall, Outcome.bind_eq_ok] at h
    obtain ⟨bytes, read, _, hword, -⟩ := h
    rw [Address.bytesOf_eq read]
    unfold Abi.addressWord at hword
    split at hword
    · assumption
    · cases hword
  rw [made length] at h
  exact ⟨length, Except.ok.inj h⟩

theorem approve_follows (spender : Address) (token : String) :
    Follows ((Address.bytesOf token).length = 20) (approve spender.text token Abi.maxWord 0)
      (Plan.approve (Address.bytesOf token) spender.bytes).Fits
      (Plan.approve (Address.bytesOf token) spender.bytes) := by
  have noLimit : Bytes.ofNat 32 Abi.maxWord = List.replicate 32 0xff := by
    decide +kernel
  have data : Abi.approve spender.text Abi.maxWord =
      .ok (Plan.approve (Address.bytesOf token) spender.bytes).data := by
    rw [Plan.approve, ← noLimit]
    exact (tokenCall_follows _ _ (Nat.le_refl _)).complete spender.length_bytes spender.length_bytes
  have plain : Flag.insertsAmount 0 = false := by decide
  simp only [approve, data, Outcome.ok_bind, plain, Bool.false_eq_true, if_false,
    pure_bind]
  exact make_follows (Plan.approve (Address.bytesOf token) spender.bytes) rfl

theorem transfer_follows (receiver token : String) :
    Follows ((Address.bytesOf receiver).length = 20 ∧ (Address.bytesOf token).length = 20)
      (transfer receiver token)
      ((Address.bytesOf receiver).length = 20 ∧
        (Plan.transfer (Address.bytesOf token) (Address.bytesOf receiver)).Fits)
      (Plan.transfer (Address.bytesOf token) (Address.bytesOf receiver)) := by
  have data : Follows ((Address.bytesOf receiver).length = 20 ∧
        (Address.bytesOf token).length = 20) (Abi.transfer receiver 0)
      ((Address.bytesOf receiver).length = 20)
      (Plan.transfer (Address.bytesOf token) (Address.bytesOf receiver)).data :=
    (tokenCall_follows _ _ (Nat.zero_le _)).mono fun regular => regular.1
  have call := make_follows (Plan.transfer (Address.bytesOf token) (Address.bytesOf receiver)) rfl
  exact data.bind fun _ => call.mono fun regular => regular.2

theorem wrap_follows (template : WrapCall) :
    Follows True (wrap template 9) (Plan.deposit template).Fits (Plan.deposit template) := by
  rw [wrap, template.data.bytes_eq, Outcome.ok_bind]
  exact (make_follows (Plan.deposit template) rfl).mono fun _ => template.callee.length_bytes

theorem unwrap_follows (template : WrapCall) :
    Follows True (unwrap template) (Plan.withdraw template).Fits (Plan.withdraw template) := by
  rw [unwrap, template.data.bytes_eq, Outcome.ok_bind]
  exact (make_follows (Plan.withdraw template) rfl).mono fun _ => template.callee.length_bytes

theorem forwardNative_eq : forwardNative = .ok Plan.forwardNative := by
  have target : Address.bytesOf zeroAddress = Bytes.zeros 20 := by
    decide +kernel
  exact (make_follows Plan.forwardNative target).complete (by decide) ⟨by decide, by decide⟩

end Call

end SwapCompiler
