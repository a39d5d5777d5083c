import SwapCompiler.Traced
import Mathlib.Data.List.Forall2

/-!
# How runs end

Most functions of the compiler are chains of steps that end in a value or a fault. The
lemmas here take such a chain apart: `bind_eq_ok` from a value back to the values of the
steps, and `OnlyOverflows` from a fault to its cause, which for a well-formed request is
a header field that is too narrow. `Follows` joins the two: it compares a step with a
planned value and is the form in which the steps of the compiler are specified. Where the
fault itself is of interest, `Decides` lists what a chain checks, in the order in which it does.
The trace of a run plays no part in how it ends.
-/

namespace SwapCompiler

namespace Outcome

variable {α β : Type}

/-! ## Chains that end in a value -/

theorem bind_eq_ok {step : Except Fault α} {next : α → Except Fault β} {value : β} :
    (step >>= next) = .ok value ↔ ∃ first, step = .ok first ∧ next first = .ok value := by
  cases step with
  | error fault =>
    constructor
    · intro h
      cases h
    · rintro ⟨first, h, _⟩
      cases h
  | ok first =>
    constructor
    · intro h
      exact ⟨first, rfl, h⟩
    · rintro ⟨other, h, hnext⟩
      cases h
      exact hnext

theorem map_eq_ok {step : Except Fault α} {f : α → β} {value : β} :
    step.map f = .ok value ↔ ∃ first, step = .ok first ∧ f first = value := by
  cases step with
  | error fault =>
    constructor
    · intro h
      cases h
    · rintro ⟨first, h, _⟩
      cases h
  | ok first =>
    constructor
    · intro h
      cases h
      exact ⟨first, rfl, rfl⟩
    · rintro ⟨other, h, rfl⟩
      cases h
      rfl

@[simp] theorem pure_eq_ok {first value : α} :
    (pure first : Except Fault α) = .ok value ↔ first = value :=
  ⟨fun h => by cases h; rfl, fun h => by rw [h]; rfl⟩

@[simp] theorem ok_bind (first : α) (next : α → Except Fault β) :
    (Except.ok first >>= next) = next first := rfl

@[simp] theorem error_bind (fault : Fault) (next : α → Except Fault β) :
    (Except.error fault >>= next) = .error fault := rfl

/-- A chain fails in its first step or behind it. -/
theorem bind_eq_error {step : Except Fault α} {next : α → Except Fault β} {fault : Fault} :
    (step >>= next) = .error fault ↔
      step = .error fault ∨ ∃ value, step = .ok value ∧ next value = .error fault := by
  cases step with
  | error first => simp
  | ok value => simp

/-- Steps for all members of a list give a value each or fail. -/
theorem mapM_eq_ok {f : α → Except Fault β} {list : List α} {values : List β} :
    list.mapM f = .ok values ↔ List.Forall₂ (fun a b => f a = .ok b) list values := by
  induction list generalizing values with
  | nil =>
    rw [List.mapM_nil, pure_eq_ok, List.forall₂_nil_left_iff]
    exact eq_comm
  | cons a rest ih =>
    simp only [List.mapM_cons, bind_eq_ok, pure_eq_ok, ih, List.forall₂_cons_left_iff]
    constructor
    · rintro ⟨b, first, bs, others, rfl⟩
      exact ⟨b, bs, first, others, rfl⟩
    · rintro ⟨b, bs, first, others, rfl⟩
      exact ⟨b, first, bs, others, rfl⟩

end Outcome

theorem Outcome.exists_of_isOk {α : Type} {outcome : Except Fault α}
    (h : outcome.isOk = true) : ∃ value, outcome = .ok value := by
  cases outcome with
  | error fault => cases h
  | ok value => exact ⟨value, rfl⟩

/-- What a value is found to have by looking at it. -/
theorem Outcome.exists_of_any {ε α : Type} {outcome : Except ε α} {found : α → Bool}
    (h : outcome.toOption.any found = true) : ∃ value, outcome = .ok value ∧ found value = true := by
  cases outcome with
  | error fault => cases h
  | ok value => exact ⟨value, rfl, h⟩

theorem Outcome.ite_bind {α β : Type} (c : Prop) [Decidable c] (step other : Except Fault α)
    (next : α → Except Fault β) :
    (if c then step >>= next else other >>= next) = (if c then step else other) >>= next := by
  by_cases h : c
  · rw [if_pos h, if_pos h]
  · rw [if_neg h, if_neg h]

/-! ## Chains that end in a fault -/

/-- The fault is a value that does not fit its header field. -/
def Fault.IsOverflow (fault : Fault) : Prop :=
  ∃ field value width, fault = .refused (.headerOverflow field value width)

/-- Nothing but a header field that is too narrow can go wrong. -/
def OnlyOverflows {α : Type} (outcome : Except Fault α) : Prop :=
  ∀ fault, outcome = .error fault → fault.IsOverflow

namespace OnlyOverflows

variable {α β : Type}

theorem ok (value : α) : OnlyOverflows (.ok value) :=
  fun _ h => nomatch h

theorem of_ok {outcome : Except Fault α} {value : α} (h : outcome = .ok value) :
    OnlyOverflows outcome :=
  h ▸ ok value

theorem overflow (field : String) (value width : Int) :
    OnlyOverflows (.error (.refused (.headerOverflow field value width)) : Except Fault α) := by
  intro fault h
  cases h
  exact ⟨field, value, width, rfl⟩

theorem bind {step : Except Fault α} {next : α → Except Fault β} (first : OnlyOverflows step)
    (rest : ∀ value, step = .ok value → OnlyOverflows (next value)) :
    OnlyOverflows (step >>= next) := by
  cases step with
  | error fault =>
    intro fault' h
    cases h
    exact first fault rfl
  | ok value => exact rest value rfl

theorem map {step : Except Fault α} {f : α → β} (first : OnlyOverflows step) :
    OnlyOverflows (step.map f) := by
  cases step with
  | error fault =>
    intro fault' h
    cases h
    exact first fault rfl
  | ok value => exact ok (f value)

/-- A run that ends neither in a value nor otherwise than by an overflow ends in an overflow. -/
theorem exists_of_not_ok {outcome : Except Fault α} (h : OnlyOverflows outcome)
    (none : ∀ value, outcome ≠ .ok value) :
    ∃ fault, outcome = .error fault ∧ fault.IsOverflow := by
  cases outcome with
  | error fault => exact ⟨fault, rfl, h fault rfl⟩
  | ok value => exact absurd rfl (none value)

end OnlyOverflows

/-! ## Steps that follow a plan -/

/-- The step follows a plan: what it gives, if anything, is the planned value, and that
fits. In a regular setting it gives the planned value if that fits, and overflows if not. -/
structure Follows {α : Type} (regular : Prop) (step : Except Fault α) (fits : Prop)
    (planned : α) : Prop where
  sound : ∀ value, step = .ok value → fits ∧ planned = value
  complete : regular → fits → step = .ok planned
  overflows : regular → OnlyOverflows step

namespace Follows

variable {α β : Type} {regular fits fits' : Prop} {step : Except Fault α} {planned : α}

theorem ok (value : α) : Follows regular (.ok value) True value where
  sound _ h := by
    cases h
    exact ⟨trivial, rfl⟩
  complete _ _ := rfl
  overflows _ := .ok value

theorem bind {next : α → Except Fault β} {planned' : β}
    (first : Follows regular step fits planned)
    (rest : fits → Follows regular (next planned) fits' planned') :
    Follows regular (step >>= next) (fits ∧ fits') planned' where
  sound value h := by
    obtain ⟨value', given, hnext⟩ := Outcome.bind_eq_ok.mp h
    obtain ⟨fit, rfl⟩ := first.sound value' given
    obtain ⟨fit', same⟩ := (rest fit).sound value hnext
    exact ⟨⟨fit, fit'⟩, same⟩
  complete hregular := by
    rintro ⟨fit, fit'⟩
    rw [first.complete hregular fit, Outcome.ok_bind]
    exact (rest fit).complete hregular fit'
  overflows hregular := by
    refine (first.overflows hregular).bind fun value h => ?_
    obtain ⟨fit, rfl⟩ := first.sound value h
    exact (rest fit).overflows hregular

theorem map (f : α → β) (first : Follows regular step fits planned) :
    Follows regular (step.map f) fits (f planned) where
  sound value h := by
    obtain ⟨value', given, rfl⟩ := Outcome.map_eq_ok.mp h
    obtain ⟨fit, rfl⟩ := first.sound value' given
    exact ⟨fit, rfl⟩
  complete hregular fit := by
    rw [first.complete hregular fit]
    rfl
  overflows hregular := (first.overflows hregular).map

theorem bind_pure (f : α → β) (first : Follows regular step fits planned) :
    Follows regular (step >>= fun value => pure (f value)) fits (f planned) := by
  have mapped : (step >>= fun value => pure (f value)) = step.map f := by
    cases step <;> rfl
  rw [mapped]
  exact first.map f

/-- A step whose value the plan does not depend on. -/
theorem skip (step : Except Fault α) {next : α → Except Fault β} {planned' : β}
    (rest : ∀ value, Follows regular (next value) fits' planned') :
    Follows ((∃ value, step = .ok value) ∧ regular) (step >>= next)
      ((∃ value, step = .ok value) ∧ fits') planned' where
  sound value h := by
    obtain ⟨value', given, hnext⟩ := Outcome.bind_eq_ok.mp h
    obtain ⟨fit, same⟩ := (rest value').sound value hnext
    exact ⟨⟨⟨value', given⟩, fit⟩, same⟩
  complete := by
    rintro ⟨⟨value, given⟩, hregular⟩ ⟨-, fit⟩
    rw [given, Outcome.ok_bind]
    exact (rest value).complete hregular fit
  overflows := by
    rintro ⟨⟨value, given⟩, hregular⟩
    rw [given, Outcome.ok_bind]
    exact (rest value).overflows hregular

theorem congr (down : fits → fits') (up : regular → fits' → fits)
    (h : Follows regular step fits planned) : Follows regular step fits' planned where
  sound value hvalue := (h.sound value hvalue).imp_left down
  complete hregular fit := h.complete hregular (up hregular fit)
  overflows := h.overflows

theorem mono {regular' : Prop} (weaker : regular' → regular)
    (h : Follows regular step fits planned) : Follows regular' step fits planned where
  sound := h.sound
  complete hregular := h.complete (weaker hregular)
  overflows hregular := h.overflows (weaker hregular)

end Follows

/-! ## Chains that end in the first fault -/

/-- Something that is checked: when it fails, and with which fault. -/
structure Check where
  fails : Prop
  fault : Fault

/-- The fault is that of the first check that fails. -/
def Check.FirstFault (checks : List Check) (fault : Fault) : Prop :=
  ∃ passed check behind, checks = passed ++ check :: behind ∧ (∀ check ∈ passed, ¬ check.fails) ∧
    check.fails ∧ check.fault = fault

/-- A check that is made only under a condition. -/
def Check.onlyIf (condition : Prop) (check : Check) : Check := ⟨condition ∧ check.fails, check.fault⟩

/-- The step makes the checks in their order: it ends in the fault of the first that fails, and
in the value if none does. -/
def Decides {α : Type} : List Check → Except Fault α → α → Prop
  | [], step, value => step = .ok value
  | check :: rest, step, value =>
    (check.fails → step = .error check.fault) ∧ (¬ check.fails → Decides rest step value)

namespace Decides

variable {α β : Type} {checks checks' : List Check} {step : Except Fault α} {value : α}

theorem of_passed (decides : Decides checks step value) (passed : ∀ check ∈ checks, ¬ check.fails) :
    step = .ok value := by
  induction checks with
  | nil => exact decides
  | cons check rest ih =>
    rw [List.forall_mem_cons] at passed
    exact ih (decides.2 passed.1) passed.2

theorem of_firstFault {fault : Fault} (decides : Decides checks step value)
    (first : Check.FirstFault checks fault) : step = .error fault := by
  obtain ⟨passed, check, behind, rfl, none, fails, rfl⟩ := first
  induction passed with
  | nil => exact decides.1 fails
  | cons check' rest ih =>
    rw [List.forall_mem_cons] at none
    exact ih (decides.2 none.1) none.2

theorem passed_or_firstFault (checks : List Check) :
    (∀ check ∈ checks, ¬ check.fails) ∨ ∃ fault, Check.FirstFault checks fault := by
  induction checks with
  | nil => exact .inl fun _ h => nomatch h
  | cons check rest ih =>
    by_cases fails : check.fails
    · exact .inr ⟨_, [], check, rest, rfl, fun _ h => (nomatch h), fails, rfl⟩
    · obtain all | ⟨fault, passed, other, behind, rfl, none, first⟩ := ih
      · exact .inl (List.forall_mem_cons.mpr ⟨fails, all⟩)
      · exact .inr ⟨fault, check :: passed, other, behind, rfl,
          List.forall_mem_cons.mpr ⟨fails, none⟩, first⟩

theorem eq_ok_iff {other : α} (decides : Decides checks step value) :
    step = .ok other ↔ (∀ check ∈ checks, ¬ check.fails) ∧ value = other := by
  constructor
  · intro made
    obtain all | ⟨fault, first⟩ := passed_or_firstFault checks
    · rw [decides.of_passed all] at made
      exact ⟨all, Except.ok.inj made⟩
    · rw [decides.of_firstFault first] at made
      cases made
  · rintro ⟨all, rfl⟩
    exact decides.of_passed all

theorem eq_error_iff {fault : Fault} (decides : Decides checks step value) :
    step = .error fault ↔ Check.FirstFault checks fault := by
  constructor
  · intro failed
    obtain all | ⟨fault', first⟩ := passed_or_firstFault checks
    · rw [decides.of_passed all] at failed
      cases failed
    · rw [decides.of_firstFault first] at failed
      cases failed
      exact first
  · exact decides.of_firstFault

theorem bind {next : α → Except Fault β} {result : β} (first : Decides checks step value)
    (rest : Decides checks' (next value) result) : Decides (checks ++ checks') (step >>= next) result := by
  induction checks with
  | nil =>
    rw [show step = .ok value from first]
    exact rest
  | cons check others ih =>
    -- a check of the first step that fails ends the chain
    refine ⟨fun fails => ?_, fun passes => ih (first.2 passes)⟩
    rw [first.1 fails, Outcome.error_bind]

/-- A step that is taken only under a condition. -/
theorem onlyIf {condition : Prop} [Decidable condition] (other : α)
    (decides : condition → Decides checks step value) :
    Decides (checks.map (Check.onlyIf condition)) (if condition then step else pure other)
      (if condition then value else other) := by
  by_cases holds : condition
  · rw [if_pos holds, if_pos holds]
    replace decides := decides holds
    induction checks with
    | nil => exact decides
    | cons check rest ih =>
      exact ⟨fun fails => decides.1 fails.2,
        fun passes => ih (decides.2 fun fails => passes ⟨holds, fails⟩)⟩
  · rw [if_neg holds, if_neg holds]
    clear decides
    induction checks with
    | nil => rfl
    | cons check rest ih => exact ⟨fun fails => absurd fails.1 holds, fun _ => ih⟩

end Decides
/-! ## Runs with a trace -/

namespace Traced

variable {α β : Type}

@[simp] theorem outcome_bind (run : Traced α) (next : α → Traced β) :
    (run >>= next).outcome = run.outcome >>= fun value => (next value).outcome := by
  cases run with
  | mk events outcome => cases outcome <;> rfl

@[simp] theorem outcome_pure (value : α) : (pure value : Traced α).outcome = .ok value := rfl

@[simp] theorem outcome_report (event : Event) : (report event).outcome = .ok () := rfl

@[simp] theorem outcome_monadLift (outcome : Except Fault α) :
    (liftM outcome : Traced α).outcome = outcome := rfl

end Traced

end SwapCompiler
