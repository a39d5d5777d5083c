import SwapCompiler.Proofs.DexCall
import SwapCompiler.Proofs.Sizes

/-!
# How a compilation ends

On strict addresses, readable amounts and shares of at most a hundred percent, a compilation
ends in a payload or in one of six kinds of refusals, and nothing else goes wrong. Which it is
can be told from the request: the preconditions come first, then the token that the only leg
has checked, then the sizes.
-/

namespace SwapCompiler

/-- A compilation ends in a payload, is refused for a reason of some kind, or fails. -/
inductive Ending
  | payload (bytes : Bytes)
  | refused (kind : Refusal.Kind)
  | failed
  deriving DecidableEq, Repr

/-- The ending of an outcome. -/
def Ending.of : Except Fault Bytes → Ending
  | .ok bytes => .payload bytes
  | .error (.refused reason) => .refused reason.kind
  | .error _ => .failed

theorem Ending.of_overflow {fault : Fault} (h : fault.IsOverflow) :
    Ending.of (.error fault) = .refused .headerOverflow := by
  obtain ⟨field, value, width, rfl⟩ := h
  rfl

/-- The amounts of the leg are unsigned 256-bit numbers. -/
def Leg.AmountsFit (leg : Leg) : Prop :=
  (∃ value, Amount.value leg.srcAmount = .ok value ∧ 0 ≤ value ∧ value < 2 ^ 256) ∧
    ∃ value, Amount.value leg.destAmount = .ok value ∧ 0 ≤ value ∧ value < 2 ^ 256

theorem Leg.AmountsFit.read {leg : Leg} (h : leg.AmountsFit) : leg.AmountsRead := by
  obtain ⟨⟨src, readSrc, -⟩, dest, readDest, -⟩ := h
  exact ⟨⟨src, readSrc⟩, dest, readDest⟩

/-- The dex call of a leg makes its checks in their order. -/
theorem Leg.AmountsFit.dexCall_decides {network : Network} {leg : Leg} (h : leg.AmountsFit)
    (strict : network.Strict) (template : CallTemplate) (flag : Flag) :
    ∃ src dest : Nat, Decides (Plan.dexChecks network leg template flag src dest)
      (Assembly.dexCall network leg template flag)
      (Plan.patchedDex network leg template flag src dest) := by
  obtain ⟨⟨src, readSrc, srcPositive, srcFits⟩, dest, readDest, destPositive, destFits⟩ := h
  lift src to Nat using srcPositive
  lift dest to Nat using destPositive
  exact ⟨src, dest, Assembly.dexCall_decides strict readSrc (by omega) readDest (by omega) _ _⟩

/-! ## What the request says -/

namespace PriceRoute

/-- There is no route, or the first one has no legs. -/
def IsEmpty (route : PriceRoute) : Prop :=
  route.bestRoute = [] ∨ ∃ best others, route.bestRoute = best :: others ∧ best.legs = []

theorem isEmpty_iff {route : PriceRoute} : route.IsEmpty ↔ route.legs = [] := by
  unfold IsEmpty legs
  cases route.bestRoute with
  | nil => simp
  | cons best others => simp

end PriceRoute

namespace Compiler

/-- The leg of the first template that needs wrapping sells native value, and there is no
deposit. -/
def LacksDeposit (network : Network) (route : PriceRoute) (templates : List CallTemplate)
    (wraps : Option WrapTemplates) : Prop :=
  WrapTemplates.deposit? wraps = none ∧
    ∃ leg template, (route.legs.zip templates).find? (·.2.needsWrap) = some (leg, template) ∧
      network.isNative leg.srcToken.text = true

/-- The only leg has the balance of a token checked, and the token is found as `found` says. -/
def OnlyLegChecks (network : Network) (route : PriceRoute) (templates : List CallTemplate)
    (wraps : Option WrapTemplates) (found : Leg → CallTemplate → Prop) : Prop :=
  ∃ leg template, route.legs = [leg] ∧ templates = [template] ∧
    ((Classification.single network wraps leg template).dex.val = 5 ∨
      (Classification.single network wraps leg template).dex.val = 8) ∧ found leg template

/-- The only leg buys native value, and the wrapped token does not occur in its data. -/
def LacksPattern (network : Network) (route : PriceRoute) (templates : List CallTemplate)
    (wraps : Option WrapTemplates) : Prop :=
  OnlyLegChecks network route templates wraps fun leg template =>
    network.isNative leg.destToken.text = true ∧
      (Plan.dexData leg template).contains (Address.bytesOf network.wrappedNative) = false

/-- The checked token of the only leg stands before byte twelve. -/
def StandsEarly (network : Network) (route : PriceRoute) (templates : List CallTemplate)
    (wraps : Option WrapTemplates) : Prop :=
  OnlyLegChecks network route templates wraps fun leg template =>
    ∃ index, Plan.balanceIndex? network leg template = some index ∧ index < 12

/-- A size or a position is too large for its header. -/
def Overflows (network : Network) (route : PriceRoute) (templates : List CallTemplate)
    (wraps : Option WrapTemplates) : Prop :=
  (∃ frame ∈ Plan.routeFrames network route templates wraps,
    2 ^ 32 ≤ frame.body.length ∨ ∃ call ∈ frame.calls, 2 ^ 32 ≤ call.data.length) ∨
  (OnlyLegChecks network route templates wraps fun leg template =>
    ∃ index, Plan.balanceIndex? network leg template = some index ∧ 2 ^ 16 ≤ index - 12) ∨
  2 ^ 256 ≤ (Plan.body network route templates wraps).length + 96

variable {network : Network} {route : PriceRoute} {templates : List CallTemplate}
  {wraps : Option WrapTemplates}

theorem findIdx?_bind_getElem? {legs : List Leg} {templates : List CallTemplate}
    (aligned : templates.length = legs.length) :
    (templates.findIdx? (·.needsWrap)).bind (legs[·]?) =
      ((legs.zip templates).find? (·.2.needsWrap)).map (·.1) := by
  induction legs generalizing templates with
  | nil =>
    obtain rfl := List.eq_nil_of_length_eq_zero aligned
    rfl
  | cons leg legs ih =>
    obtain ⟨template, templates, rfl⟩ := List.exists_cons_of_length_eq_add_one aligned
    rw [List.zip_cons_cons, List.findIdx?_cons, List.find?_cons]
    cases template.needsWrap with
    | true => rfl
    | false =>
      rw [← ih (Nat.succ.inj aligned)]
      cases templates.findIdx? (·.needsWrap) <;> rfl

theorem missingDeposit?_eq_none (aligned : templates.length = route.legs.length) :
    missingDeposit? network wraps route.legs templates = none ↔
      ¬ LacksDeposit network route templates wraps := by
  have first := findIdx?_bind_getElem? aligned
  unfold LacksDeposit missingDeposit?
  cases wanted : templates.findIdx? (·.needsWrap) with
  | none =>
    rw [wanted, Option.bind_none] at first
    have unwanted := Option.map_eq_none_iff.mp first.symm
    simp [unwanted]
  | some index =>
    rw [wanted, Option.bind_some] at first
    cases found : (route.legs.zip templates).find? (·.2.needsWrap) with
    | none =>
      rw [found, Option.map_none] at first
      simp [first]
    | some pair =>
      obtain ⟨leg, template⟩ := pair
      rw [found, Option.map_some] at first
      simp only [first]
      cases native : network.isNative leg.srcToken.text <;>
        cases WrapTemplates.deposit? wraps <;> simp [native]

/-! ## The only leg -/

/-- A dex call that fails ends the compilation of an only leg. -/
theorem compile_of_dexCall_error {leg : Leg} {template : CallTemplate} {fault : Fault}
    (sender : String) (admits : Admits network route [template] wraps) (legs : route.legs = [leg])
    (failed : Assembly.dexCall network leg template
      (Classification.single network wraps leg template).dex = .error fault) :
    (compile network route [template] sender wraps).outcome = .error fault := by
  rw [outcome_of_admits sender admits, legs, Plan.ordered_singleton]
  -- the dex call is the first step of the first frame
  have frame : (Assembly.legFrame network wraps
      [⟨leg, template, Classification.single network wraps leg template⟩] (0 : Nat)).outcome =
        .error fault := by
    simp only [Assembly.legFrame, Traced.outcome_bind, Traced.outcome_monadLift,
      Assembly.legAt_natCast (List.getElem?_cons_zero ..), Outcome.ok_bind, Assembly.calls, failed,
      Outcome.error_bind]
  have range : List.range [(⟨leg, template, Classification.single network wraps leg template⟩ :
      OrderedLeg)].length = [0] := rfl
  simp only [range, Assembly.legFrames, Traced.outcome_bind, frame, Outcome.error_bind]

/-- The flags of an only leg that have a balance checked. -/
theorem checksToken_single (network : Network) (wraps : Option WrapTemplates) (leg : Leg)
    (template : CallTemplate) :
    Plan.checksToken (Classification.single network wraps leg template).dex = true ↔
      (Classification.single network wraps leg template).dex.val = 5 ∨
        (Classification.single network wraps leg template).dex.val = 8 := by
  rw [← Plan.flags_of_one network wraps leg template rfl]
  obtain ⟨same, -⟩ | same | same | same := Plan.flags_cases network wraps 1 leg template <;>
    rw [same] <;> decide

/-- Without the wrapped token in the data of the only leg, that token is reported. -/
theorem compile_of_lacksPattern (sender : String) (strict : network.Strict)
    (amounts : ∀ leg ∈ route.legs, leg.AmountsFit)
    (admits : Admits network route templates wraps)
    (absent : LacksPattern network route templates wraps) :
    ∃ pattern, (compile network route templates sender wraps).outcome =
      .error (Refusal.patternNotFound "balance check token" pattern) := by
  obtain ⟨leg, template, only, rfl, checks, native, absent⟩ := absent
  have absent : ¬ Bytes.Occurs (Plan.balanceToken network leg) (Plan.dexData leg template) := by
    rw [Plan.balanceToken, if_pos native, ← Bytes.contains_iff, absent]
    decide
  have checks := beq_iff_eq.mp ((checksToken_single network wraps leg template).mpr checks)
  obtain ⟨src, dest, decides⟩ := (amounts leg (by simp [only])).dexCall_decides strict template _
  exact ⟨_, compile_of_dexCall_error sender admits only (decides.1 ⟨checks, absent⟩)⟩

/-- A checked token that stands too early in the data of the only leg is reported. -/
theorem compile_of_standsEarly (sender : String) (strict : network.Strict)
    (amounts : ∀ leg ∈ route.legs, leg.AmountsFit)
    (admits : Admits network route templates wraps)
    (early : StandsEarly network route templates wraps) :
    ∃ index, (compile network route templates sender wraps).outcome =
      .error (Refusal.outsideWord index) := by
  obtain ⟨leg, template, only, rfl, checks, index, found, early⟩ := early
  have first := Bytes.firstIndex?_eq_some.mp found
  have checks := beq_iff_eq.mp ((checksToken_single network wraps leg template).mpr checks)
  obtain ⟨src, dest, decides⟩ := (amounts leg (by simp [only])).dexCall_decides strict template _
  have present := decides.2 fun fails => fails.2 ⟨index, first.1⟩
  rw [← first.firstOffset_eq] at early
  exact ⟨_, compile_of_dexCall_error sender admits only (present.1 ⟨checks, early⟩)⟩

/-- A leg that is not the only one has no balance checked. -/
theorem only_or_unchecked {legs : List Leg} {current : OrderedLeg}
    (aligned : templates.length = legs.length)
    (h : current ∈ Plan.ordered network wraps legs templates) :
    (legs = [current.leg] ∧ templates = [current.template] ∧
      current.flags = Classification.single network wraps current.leg current.template) ∨
    Plan.checksToken current.flags.dex = false := by
  obtain ⟨leg, template, member, rfl⟩ := Plan.mem_ordered.mp h
  by_cases one : legs.length = 1
  · obtain ⟨only, rfl⟩ := List.length_eq_one_iff.mp one
    obtain ⟨itsTemplate, rfl⟩ := List.length_eq_one_iff.mp (aligned.trans one)
    rw [List.zip_cons_cons, List.zip_nil_left, List.mem_singleton] at member
    cases member
    left
    dsimp only
    exact ⟨rfl, rfl, Plan.flags_of_one network wraps leg template one⟩
  · right
    rw [Plan.flags, if_neg one]
    rfl

/-- Unless the checked token is missing or early, only the widths of headers matter. -/
theorem regular_of_found (strict : network.Strict)
    (shares : ∀ leg ∈ route.legs, leg.IsShare) (amounts : ∀ leg ∈ route.legs, leg.AmountsFit)
    (aligned : templates.length = route.legs.length)
    (present : ¬ LacksPattern network route templates wraps)
    (late : ¬ StandsEarly network route templates wraps) :
    Regular network route templates wraps := by
  intro current member
  have leg := (Plan.leg_mem_of_mem_ordered member).1
  refine ⟨strict, (amounts _ leg).read, (Plan.hundredths_le (shares _ leg)).1, fun checks => ?_⟩
  obtain ⟨only, its, flags⟩ | unchecked := only_or_unchecked aligned member
  · have five := checks
    rw [flags, checksToken_single] at five
    cases found : Plan.balanceIndex? network current.leg current.template with
    | some index =>
      refine ⟨index, rfl, ?_⟩
      by_contra early
      exact late ⟨_, _, only, its, five, index, found, by omega⟩
    | none =>
      -- the destination token is embedded, so it can only be the wrapped one that is missing
      have absent := Bytes.firstIndex?_eq_none.mp found
      unfold Plan.balanceToken at absent
      cases native : network.isNative current.leg.destToken.text with
      | true =>
        rw [if_pos native] at absent
        exact absurd ⟨_, _, only, its, five, native, absent⟩ present
      | false =>
        rw [if_neg (by rw [native]; exact Bool.false_ne_true),
          Plan.dexData_contains_destToken] at absent
        cases absent
  · rw [unchecked] at checks
    cases checks

/-! ## Sizes -/

theorem frame_mem_routeFrames {position : Nat} {current : OrderedLeg}
    (at' : (Plan.ordered network wraps route.legs templates)[position]? = some current) :
    Plan.frame network wraps (Plan.ordered network wraps route.legs templates) position current ∈
      Plan.routeFrames network route templates wraps := by
  obtain ⟨within, rfl⟩ := List.getElem?_eq_some_iff.mp at'
  exact List.mem_mapIdx.mpr ⟨position, within, rfl⟩

theorem fits_iff (regular : Regular network route templates wraps)
    (shares : ∀ leg ∈ route.legs, leg.IsShare)
    (aligned : templates.length = route.legs.length) :
    Fits network route templates wraps ↔ ¬ Overflows network route templates wraps := by
  have sizes {position : Nat} {current : OrderedLeg}
      (at' : (Plan.ordered network wraps route.legs templates)[position]? = some current) :
      Plan.LegFits network wraps (Plan.ordered network wraps route.legs templates) position
          current ↔
        Plan.SizesFit network wraps (Plan.ordered network wraps route.legs templates) position
          current :=
    Plan.legFits_iff (regular _ (List.mem_of_getElem? at'))
      (shares _ (Plan.leg_mem_of_mem_ordered (List.mem_of_getElem? at')).1)
  constructor
  · rintro ⟨legs, length⟩
      (⟨frame, inside, large⟩ | ⟨leg, template, only, its, checks, large⟩ | large)
    · obtain ⟨position, within, rfl⟩ := List.mem_mapIdx.mp inside
      have at' := List.getElem?_eq_getElem within
      have fit := (sizes at').mp (legs position _ at')
      obtain large | ⟨call, member, large⟩ := large
      · exact absurd fit.body (Nat.not_lt.mpr large)
      · exact absurd (fit.data call member) (Nat.not_lt.mpr large)
    · obtain ⟨index, found, large⟩ := large
      have at' : (Plan.ordered network wraps route.legs templates)[0]? =
          some ⟨leg, template, Classification.single network wraps leg template⟩ := by
        rw [only, its, Plan.ordered_singleton]
        rfl
      have fit := ((sizes at').mp (legs 0 _ at')).balancePos
      rw [Plan.balancePos, if_pos ((checksToken_single _ _ _ _).mpr checks), found] at fit
      exact absurd fit (Nat.not_lt.mpr large)
    · exact absurd length (Nat.not_lt.mpr large)
  · intro small
    refine ⟨fun position current at' => (sizes at').mpr ⟨?_, ?_, ?_⟩, ?_⟩
    · intro call member
      by_contra large
      exact small (.inl ⟨_, frame_mem_routeFrames at', .inr ⟨call, member, Nat.le_of_not_lt large⟩⟩)
    · by_contra large
      exact small (.inl ⟨_, frame_mem_routeFrames at', .inl (Nat.le_of_not_lt large)⟩)
    · have member := List.mem_of_getElem? at'
      unfold Plan.balancePos
      split
      · rename_i checks
        obtain ⟨index, found, -⟩ := (regular _ member).balanceFound checks
        obtain ⟨only, its, flags⟩ | unchecked := only_or_unchecked aligned member
        · rw [flags, checksToken_single] at checks
          by_contra large
          rw [found] at large
          exact small (.inr (.inl ⟨_, _, only, its, checks, index, found, Nat.le_of_not_lt large⟩))
        · rw [unchecked] at checks
          cases checks
      · decide
    · by_contra large
      exact small (.inr (.inr (Nat.le_of_not_lt large)))

end Compiler

/-! ## A request for each ending -/

namespace Sample

theorem isShare_of_only {srcToken destToken : Address} :
    ∀ only ∈ [leg srcToken destToken 100], only.IsShare := by
  intro only member
  rw [List.mem_singleton.mp member]
  show (0 : Float) < 100 ∧ (100 : Float) ≤ 100
  exact ⟨by decide, by decide⟩

theorem amountsFit_of_only {srcToken destToken : Address} :
    ∀ only ∈ [leg srcToken destToken 100], only.AmountsFit := by
  have src : Amount.value "1000" = .ok 1000 := by decide
  have dest : Amount.value "999" = .ok 999 := by decide
  intro only member
  rw [List.mem_singleton.mp member]
  exact ⟨⟨1000, src, by decide, by decide⟩, 999, dest, by decide, by decide⟩

/-- The token stands right behind the selector. -/
def earlyToken : CallTemplate :=
  ⟨exchange, .ofBytes ([0x12, 0x34, 0x56, 0x78] ++ token.bytes), true, false, 0⟩

/-- More zeros than a header has positions. -/
def manyZeros : CallTemplate := ⟨exchange, .ofBytes (Bytes.zeros (2 ^ 16 + 12)), true, false, 0⟩

theorem not_isEmpty_route (only : Leg) : ¬ (route [only]).IsEmpty := by
  rw [PriceRoute.isEmpty_iff]
  exact List.cons_ne_nil _ _

theorem lacksDeposit_templates : Compiler.LacksDeposit network (route legs) templates none :=
  ⟨rfl, _, _, rfl, isNative_native⟩

theorem not_lacksDeposit_plain {template : CallTemplate} (plain : template.needsWrap = false) :
    ¬ Compiler.LacksDeposit network (route legs) [template] none := by
  refine (Compiler.missingDeposit?_eq_none rfl).mp ?_
  simp [Compiler.missingDeposit?, plain]

theorem not_lacksDeposit_withdraws :
    ¬ Compiler.LacksDeposit network (route buysNative) templates withdraws := by
  refine (Compiler.missingDeposit?_eq_none rfl).mp ?_
  decide +kernel

/-- The wrapped token is checked for native value that is withdrawn. -/
theorem lacksPattern_buysNative :
    Compiler.LacksPattern network (route buysNative) templates withdraws :=
  ⟨_, _, rfl, rfl, .inr (by decide +kernel), isNative_native, by decide +kernel⟩

/-- A leg that buys the token has it in its data. -/
theorem not_lacksPattern_legs (template : CallTemplate) :
    ¬ Compiler.LacksPattern network (route legs) [template] none := by
  rintro ⟨buys, _, only, -, -, isNative, -⟩
  obtain rfl : leg native token 100 = buys := List.head_eq_of_cons_eq only
  cases isNative.symm.trans isNative_token

theorem standsEarly_earlyToken : Compiler.StandsEarly network (route legs) [earlyToken] none := by
  have first : Plan.balanceIndex? network (leg native token 100) earlyToken = some 4 := by
    rw [Plan.balanceIndex?, Plan.dexData, earlyToken, HexData.content_ofBytes]
    decide +kernel
  exact ⟨_, _, rfl, rfl, .inl (by decide +kernel), 4, first, by decide⟩

/-- The token is embedded behind the zeros. -/
theorem balanceIndex?_manyZeros :
    ∃ index, Plan.balanceIndex? network (leg native token 100) manyZeros = some index ∧
      2 ^ 16 + 12 ≤ index := by
  have checked : Plan.balanceToken network (leg native token 100) = token.bytes := by
    decide +kernel
  have begins : token.bytes = 0x6b :: token.bytes.tail := by
    decide +kernel
  have content : manyZeros.data.content = Bytes.zeros (2 ^ 16 + 12) := HexData.content_ofBytes _
  have front : Bytes.zeros (2 ^ 16 + 12) <+: Plan.dexData (leg native token 100) manyZeros := by
    rw [Plan.dexData, content]
    exact (Plan.isPrefix_embed _ _).trans (Plan.isPrefix_embed _ _)
  have occurs : Bytes.Occurs token.bytes (Plan.dexData (leg native token 100) manyZeros) :=
    Bytes.contains_iff.mp (Plan.dexData_contains_destToken _ _)
  rw [Plan.balanceIndex?, checked]
  refine ⟨_, Bytes.firstIndex?_eq_some.mpr occurs.isFirst, ?_⟩
  have found := occurs.isFirst.1
  rw [begins] at found ⊢
  exact Bytes.le_of_occursAt_zeros (by decide) front found

theorem not_standsEarly_manyZeros :
    ¬ Compiler.StandsEarly network (route legs) [manyZeros] none := by
  obtain ⟨index, found, behind⟩ := balanceIndex?_manyZeros
  rintro ⟨sells, template, only, its, -, first, found', early⟩
  obtain rfl : leg native token 100 = sells := List.head_eq_of_cons_eq only
  obtain rfl : manyZeros = template := List.head_eq_of_cons_eq its
  rw [found] at found'
  cases found'
  omega

theorem overflows_manyZeros : Compiler.Overflows network (route legs) [manyZeros] none := by
  obtain ⟨index, found, behind⟩ := balanceIndex?_manyZeros
  right
  left
  exact ⟨_, _, rfl, rfl, .inl (by decide +kernel), index, found, by omega⟩

end Sample

/-! ## The ending -/

namespace Compiler

variable {network : Network} {route : PriceRoute} {templates : List CallTemplate}
  {wraps : Option WrapTemplates}

/-- A compilation ends as the request says, the first case that applies winning. -/
theorem ending_of_compile (sender : String) (strict : network.Strict)
    (shares : ∀ leg ∈ route.legs, leg.IsShare) (amounts : ∀ leg ∈ route.legs, leg.AmountsFit) :
    open Classical in
    Ending.of (compile network route templates sender wraps).outcome =
      if route.IsEmpty then .refused .emptyRoute
      else if templates.length ≠ route.legs.length then .refused .misalignedTemplates
      else if LacksDeposit network route templates wraps then .refused .missingDeposit
      else if LacksPattern network route templates wraps then .refused .patternNotFound
      else if StandsEarly network route templates wraps then .refused .encoding
      else if Overflows network route templates wraps then .refused .headerOverflow
      else .payload (Plan.payload network route templates wraps) := by
  have checked := outcome_checkPreconditions network route templates wraps
  by_cases empty : route.IsEmpty
  · rw [if_pos empty, outcome_compile, checked, if_pos (PriceRoute.isEmpty_iff.mp empty)]
    rfl
  have legs : route.legs ≠ [] := fun h => empty (PriceRoute.isEmpty_iff.mpr h)
  rw [if_neg empty]
  by_cases misaligned : templates.length ≠ route.legs.length
  · rw [if_pos misaligned, outcome_compile, checked, if_neg legs, if_pos misaligned]
    rfl
  have aligned : templates.length = route.legs.length := not_not.mp misaligned
  rw [if_neg misaligned]
  by_cases lacking : LacksDeposit network route templates wraps
  · rw [if_pos lacking, outcome_compile, checked, if_neg legs, if_neg misaligned]
    cases missing : missingDeposit? network wraps route.legs templates with
    | none => exact absurd lacking ((missingDeposit?_eq_none aligned).mp missing)
    | some leg => rfl
  have admits : Admits network route templates wraps :=
    ⟨legs, aligned, (missingDeposit?_eq_none aligned).mpr lacking⟩
  rw [if_neg lacking]
  by_cases absent : LacksPattern network route templates wraps
  · rw [if_pos absent]
    obtain ⟨pattern, failed⟩ := compile_of_lacksPattern sender strict amounts admits absent
    rw [failed]
    rfl
  rw [if_neg absent]
  by_cases early : StandsEarly network route templates wraps
  · rw [if_pos early]
    obtain ⟨index, failed⟩ := compile_of_standsEarly sender strict amounts admits early
    rw [failed]
    rfl
  rw [if_neg early]
  -- from here on only a header can be too narrow
  have regular := regular_of_found strict shares amounts aligned absent early
  have follows := compile_follows sender admits
  by_cases overflows : Overflows network route templates wraps
  · rw [if_pos overflows]
    obtain ⟨fault, failed, overflow⟩ := (follows.overflows regular).exists_of_not_ok fun value h =>
      (fits_iff regular shares aligned).mp (follows.sound value h).1 overflows
    rw [failed, Ending.of_overflow overflow]
  · rw [if_neg overflows,
      follows.complete regular ((fits_iff regular shares aligned).mpr overflows)]
    rfl

theorem every_ending_occurs :
    Sample.network.Strict ∧
      (∀ leg ∈ Sample.legs ++ Sample.buysNative, leg.IsShare ∧ leg.AmountsFit) ∧
      Ending.of (compile Sample.network (Sample.route []) [] "" none).outcome =
        .refused .emptyRoute ∧
      Ending.of (compile Sample.network (Sample.route Sample.legs) [] "" none).outcome =
        .refused .misalignedTemplates ∧
      Ending.of (compile Sample.network (Sample.route Sample.legs) Sample.templates ""
        none).outcome = .refused .missingDeposit ∧
      Ending.of (compile Sample.network (Sample.route Sample.buysNative) Sample.templates ""
        Sample.withdraws).outcome = .refused .patternNotFound ∧
      Ending.of (compile Sample.network (Sample.route Sample.legs) [Sample.earlyToken] ""
        none).outcome = .refused .encoding ∧
      Ending.of (compile Sample.network (Sample.route Sample.legs) [Sample.manyZeros] ""
        none).outcome = .refused .headerOverflow ∧
      Ending.of (compile Sample.network (Sample.route Sample.legs) Sample.templates ""
        Sample.wraps).outcome =
          .payload (Plan.payload Sample.network (Sample.route Sample.legs) Sample.templates
            Sample.wraps) := by
  have sells := fun templates wraps => @ending_of_compile Sample.network (Sample.route Sample.legs)
    templates wraps "" Sample.strict_network Sample.isShare_of_only Sample.amountsFit_of_only
  have some : ¬ (Sample.route Sample.legs).IsEmpty := Sample.not_isEmpty_route _
  have aligned (templates : List CallTemplate) (one : templates.length = 1) :
      ¬ templates.length ≠ (Sample.route Sample.legs).legs.length := not_not_intro one
  refine ⟨Sample.strict_network, ?_, ?_, ?_, ?_, ?_, ?_, ?_, ?_⟩
  · intro leg member
    rcases List.mem_append.mp member with inside | inside
    · exact ⟨Sample.isShare_of_only leg inside, Sample.amountsFit_of_only leg inside⟩
    · exact ⟨Sample.isShare_of_only leg inside, Sample.amountsFit_of_only leg inside⟩
  · rw [@ending_of_compile _ (Sample.route []) _ _ "" Sample.strict_network
      (fun _ member => nomatch member) (fun _ member => nomatch member), if_pos]
    exact PriceRoute.isEmpty_iff.mpr rfl
  · rw [sells, if_neg some, if_pos]
    exact Nat.zero_ne_one
  · rw [sells, if_neg some, if_neg (aligned Sample.templates rfl),
      if_pos Sample.lacksDeposit_templates]
  · have some : ¬ (Sample.route Sample.buysNative).IsEmpty := Sample.not_isEmpty_route _
    have aligned : Sample.templates.length = (Sample.route Sample.buysNative).legs.length := rfl
    rw [@ending_of_compile _ (Sample.route Sample.buysNative) _ _ "" Sample.strict_network
      Sample.isShare_of_only Sample.amountsFit_of_only, if_neg some,
      if_neg (not_not_intro aligned), if_neg Sample.not_lacksDeposit_withdraws,
      if_pos Sample.lacksPattern_buysNative]
  · rw [sells, if_neg some, if_neg (aligned [Sample.earlyToken] rfl),
      if_neg (Sample.not_lacksDeposit_plain rfl), if_neg (Sample.not_lacksPattern_legs _),
      if_pos Sample.standsEarly_earlyToken]
  · rw [sells, if_neg some, if_neg (aligned [Sample.manyZeros] rfl),
      if_neg (Sample.not_lacksDeposit_plain rfl), if_neg (Sample.not_lacksPattern_legs _),
      if_neg Sample.not_standsEarly_manyZeros, if_pos Sample.overflows_manyZeros]
  · -- a payload is made, so no reason to refuse applies
    obtain ⟨payload, made⟩ := Sample.exists_payload_of_legs
    have ending := sells Sample.templates Sample.wraps
    rw [made] at ending ⊢
    change Ending.payload payload = _ at ending
    split_ifs at ending
    exact ending

end Compiler

end SwapCompiler
