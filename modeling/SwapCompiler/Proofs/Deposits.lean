import SwapCompiler.Proofs.Contents
import SwapCompiler.Proofs.Ordering

/-!
# The leg that deposits

The preconditions look at the first leg that needs wrapping in the order in which the legs are
given; the deposit is made by the first such leg in the order of assembly. Both are the same
leg, and no other one deposits.
-/

namespace SwapCompiler

namespace Sample

/-- The first leg needs wrapping, the second one does not. -/
def wrappingFirst : List CallTemplate := [template true true, template true false]

/-- Both legs sell native value. -/
def sellsHalves : PriceRoute := route (halves native token)

theorem exists_payload_of_sellsHalves :
    ∃ payload, (Compiler.compile network sellsHalves wrappingFirst "" wraps).outcome =
      .ok payload := by
  have made : (Compiler.compile network sellsHalves wrappingFirst "" wraps).outcome.isOk =
      true := by
    decide +kernel
  exact Outcome.exists_of_isOk made

end Sample

/-- The call at `j` in the frame at `i` has the flag of a deposit. -/
def Payload.Contents.DepositsAt (contents : Payload.Contents) (i j : Nat) : Prop :=
  ∃ frame call, contents.frames[i]? = some frame ∧ frame.calls[j]? = some call ∧ call.flag = 9

namespace Plan

variable {network : Network} {wraps : Option WrapTemplates} {ordered : List OrderedLeg}
  {position : Nat} {current : OrderedLeg}

/-- The calls behind those that deposit. -/
def ownCalls (network : Network) (wraps : Option WrapTemplates) (ordered : List OrderedLeg)
    (position : Nat) (current : OrderedLeg) : List Call :=
  approvals network current ++ dex network current.leg current.template current.flags.dex ::
    (if position + 1 = ordered.length then cleanUp network wraps ordered current else [])

theorem calls_eq_deposits_append (network : Network) (wraps : Option WrapTemplates)
    (ordered : List OrderedLeg) (position : Nat) (current : OrderedLeg) :
    calls network wraps ordered position current =
      deposits network wraps ordered position current ++
        ownCalls network wraps ordered position current :=
  List.append_assoc ..

theorem flag_ne_nine_of_mem_ownCalls (other : current.flags.dex ≠ 9) {call : Call}
    (h : call ∈ ownCalls network wraps ordered position current) : call.flag ≠ 9 := by
  rw [ownCalls, List.mem_append, List.mem_cons] at h
  rcases h with h | rfl | h
  · unfold approvals at h
    split at h
    · cases h
    · obtain rfl := List.mem_singleton.mp h
      simp [approve]
  · intro nine
    have flag := toNat_flag_dex network current.leg current.template current.flags.dex
    rw [nine] at flag
    exact other (Fin.ext (Int.ofNat.inj flag).symm)
  · split at h
    · rcases mem_cleanUp h with ⟨-, rfl⟩ | ⟨template, -, rfl⟩ | rfl
      all_goals simp [transfer, withdraw, forwardNative]
    · cases h

theorem dex_ne_nine {legs : List Leg} {templates : List CallTemplate}
    (h : current ∈ Plan.ordered network wraps legs templates) : current.flags.dex ≠ 9 := by
  obtain ⟨leg, template, -, rfl⟩ := mem_ordered.mp h
  obtain ⟨same, -⟩ | same | same | same := flags_cases network wraps legs.length leg template
  all_goals
    show (flags network wraps legs.length leg template).dex ≠ 9
    rw [same]
    decide

/-- Where the plan has the first leg that needs wrapping. -/
theorem first_of_ordered (network : Network) (wraps : Option WrapTemplates) {legs : List Leg}
    {templates : List CallTemplate} (aligned : templates.length = legs.length) :
    (Plan.ordered network wraps legs templates).findIdx? (·.needsWrap) =
        (templates.findIdx? (·.needsWrap)).map (fun _ => templates.countP (!·.needsWrap)) ∧
      ∀ index, templates.findIdx? (·.needsWrap) = some index →
        ∃ current,
          (Plan.ordered network wraps legs templates)[templates.countP (!·.needsWrap)]? =
            some current ∧
          legs[index]? = some current.leg ∧ templates[index]? = some current.template := by
  have length : (List.zipWith (flags network wraps legs.length) legs templates).length =
      legs.length := by
    rw [List.length_zipWith, aligned, Nat.min_self]
  obtain ⟨ordered, arranged, first, same⟩ := OrderedLeg.exists_order aligned length
  rw [OrderedLeg.order_eq network wraps aligned] at arranged
  cases arranged
  refine ⟨first, fun index wanted => ?_⟩
  obtain ⟨current, at', leg, template, -⟩ := same index wanted
  exact ⟨current, at', leg, template⟩

theorem deposits_of_given {template : WrapCall}
    (given : WrapTemplates.deposit? wraps = some template)
    (first : ordered.findIdx? (·.needsWrap) = some position) :
    deposits network wraps ordered position current =
      [approve (Address.bytesOf network.wrappedNative) current.template.target.bytes,
        deposit template] := by
  rw [deposits, given]
  exact if_pos first

theorem deposits_eq_nil
    (none : ¬ (ordered.findIdx? (·.needsWrap) = some position ∧
      (WrapTemplates.deposit? wraps).isSome = true)) :
    deposits network wraps ordered position current = [] := by
  unfold deposits
  cases given : WrapTemplates.deposit? wraps with
  | none => rfl
  | some template =>
    refine if_neg fun first => none ⟨first, ?_⟩
    rw [given]
    rfl

/-- The first leg that needs wrapping starts with the deposit, if there is one. -/
theorem calls_of_deposit {template : WrapCall}
    (given : WrapTemplates.deposit? wraps = some template)
    (first : ordered.findIdx? (·.needsWrap) = some position) :
    calls network wraps ordered position current =
      approve (Address.bytesOf network.wrappedNative) current.template.target.bytes ::
        deposit template :: ownCalls network wraps ordered position current := by
  rw [calls_eq_deposits_append, deposits_of_given given first]
  rfl

theorem calls_of_no_deposit
    (none : ¬ (ordered.findIdx? (·.needsWrap) = some position ∧
      (WrapTemplates.deposit? wraps).isSome = true)) :
    calls network wraps ordered position current =
      ownCalls network wraps ordered position current := by
  rw [calls_eq_deposits_append, deposits_eq_nil none, List.nil_append]

/-- Only the second call of the first leg that needs wrapping has the flag of a deposit. -/
theorem exists_flag_nine_iff (other : current.flags.dex ≠ 9) {j : Nat} :
    (∃ call, (calls network wraps ordered position current)[j]? = some call ∧ call.flag = 9) ↔
      j = 1 ∧ ordered.findIdx? (·.needsWrap) = some position ∧
        (WrapTemplates.deposit? wraps).isSome = true := by
  constructor
  · rintro ⟨call, at', nine⟩
    by_cases deposits : ordered.findIdx? (·.needsWrap) = some position ∧
        (WrapTemplates.deposit? wraps).isSome = true
    · obtain ⟨first, given⟩ := deposits
      obtain ⟨template, given'⟩ := Option.isSome_iff_exists.mp given
      rw [calls_of_deposit given' first] at at'
      -- the approval, the deposit, and what the leg calls anyway
      rcases j with _ | _ | j
      · rw [List.getElem?_cons_zero, Option.some.injEq] at at'
        rw [← at'] at nine
        simp [approve] at nine
      · exact ⟨rfl, first, given⟩
      · rw [List.getElem?_cons_succ, List.getElem?_cons_succ] at at'
        exact absurd nine (flag_ne_nine_of_mem_ownCalls other (List.mem_of_getElem? at'))
    · rw [calls_of_no_deposit deposits] at at'
      exact absurd nine (flag_ne_nine_of_mem_ownCalls other (List.mem_of_getElem? at'))
  · rintro ⟨rfl, first, given⟩
    obtain ⟨template, given⟩ := Option.isSome_iff_exists.mp given
    rw [calls_of_deposit given first]
    exact ⟨deposit template, List.getElem?_cons_succ, rfl⟩

end Plan

namespace Compiler

variable {network : Network} {route : PriceRoute} {templates : List CallTemplate}
  {sender : String} {wraps : Option WrapTemplates} {payload : Bytes}

/-- A deposit is missing exactly if the leg behind those that need no wrapping lacks it. -/
theorem isSome_missingDeposit? {legs : List Leg} {ordered : List OrderedLeg} {k : Nat}
    (first : ordered.findIdx? (·.needsWrap) = (templates.findIdx? (·.needsWrap)).map fun _ => k)
    (same : ∀ index, templates.findIdx? (·.needsWrap) = some index →
      ∃ current, ordered[k]? = some current ∧ legs[index]? = some current.leg) :
    (missingDeposit? network wraps legs templates).isSome = true ↔
      ordered.findIdx? (·.needsWrap) = some k ∧
        (∃ current, ordered[k]? = some current ∧
          network.isNative current.leg.srcToken.text = true) ∧
        WrapTemplates.deposit? wraps = none := by
  unfold missingDeposit?
  cases wanted : templates.findIdx? (·.needsWrap) with
  | none => simp [first, wanted]
  | some index =>
    obtain ⟨current, at', its⟩ := same index wanted
    rw [first, wanted]
    simp only [its, at']
    split
    · rename_i lacking
      simpa using lacking
    · rename_i lacking
      simpa using lacking

/-- The only deposit of a payload is the second call behind the frames of the legs that need
no wrapping. -/
theorem depositsAt_iff
    (h : (compile network route templates sender wraps).outcome = .ok payload)
    {contents : Payload.Contents} (read : Payload.read? payload = some contents) {i j : Nat} :
    contents.DepositsAt i j ↔ i = templates.countP (!·.needsWrap) ∧ j = 1 ∧
      (∃ template ∈ templates, template.needsWrap = true) ∧
      (WrapTemplates.deposit? wraps).isSome = true := by
  obtain ⟨admits, -, -⟩ := compile_sound h
  rw [read?_of_compile h] at read
  cases read
  obtain ⟨first, same⟩ := Plan.first_of_ordered network wraps admits.aligned
  have wanted : (∃ template ∈ templates, template.needsWrap = true) ↔
      (templates.findIdx? (·.needsWrap)).isSome = true := by
    rw [List.findIdx?_isSome, List.any_eq_true]
  rw [wanted, Payload.Contents.DepositsAt]
  constructor
  · rintro ⟨frame, call, inside, member, nine⟩
    rw [Plan.getElem?_routeFrames, Option.map_eq_some_iff] at inside
    obtain ⟨current, at', rfl⟩ := inside
    obtain ⟨rfl, found, given⟩ :=
      (Plan.exists_flag_nine_iff (Plan.dex_ne_nine (List.mem_of_getElem? at'))).mp
        ⟨call, member, nine⟩
    rw [first, Option.map_eq_some_iff] at found
    obtain ⟨index, found, rfl⟩ := found
    exact ⟨rfl, rfl, by rw [found]; rfl, given⟩
  · rintro ⟨rfl, rfl, found, given⟩
    obtain ⟨index, found⟩ := Option.isSome_iff_exists.mp found
    obtain ⟨current, at', -⟩ := same index found
    rw [found, Option.map_some] at first
    obtain ⟨call, member, nine⟩ :=
      (Plan.exists_flag_nine_iff (Plan.dex_ne_nine (List.mem_of_getElem? at'))).mpr
        ⟨rfl, first, given⟩
    have inside := Plan.getElem?_routeFrames network route templates wraps
      (templates.countP (!·.needsWrap))
    rw [at', Option.map_some] at inside
    exact ⟨_, call, inside, member, nine⟩

/-- The frame that deposits starts with an approval for the exchange of its leg. -/
theorem frame_of_deposit
    (h : (compile network route templates sender wraps).outcome = .ok payload)
    {contents : Payload.Contents} (read : Payload.read? payload = some contents)
    {template : CallTemplate} (wanted : templates.find? (·.needsWrap) = some template)
    {deposit : WrapCall} (given : WrapTemplates.deposit? wraps = some deposit) :
    ∃ frame rest, contents.frames[templates.countP (!·.needsWrap)]? = some frame ∧
      frame.calls = Plan.approve (Address.bytesOf network.wrappedNative) template.target.bytes ::
        Plan.deposit deposit :: rest := by
  obtain ⟨admits, -, -⟩ := compile_sound h
  rw [read?_of_compile h] at read
  cases read
  obtain ⟨first, same⟩ := Plan.first_of_ordered network wraps admits.aligned
  rw [List.find?_eq_bind_findIdx?_getElem?, Option.bind_eq_some_iff] at wanted
  obtain ⟨index, found, its⟩ := wanted
  obtain ⟨current, at', -, its'⟩ := same index found
  rw [its, Option.some.injEq] at its'
  subst its'
  rw [found, Option.map_some] at first
  have inside := Plan.getElem?_routeFrames network route templates wraps
    (templates.countP (!·.needsWrap))
  rw [at', Option.map_some] at inside
  exact ⟨_, _, inside, Plan.calls_of_deposit given first⟩

/-- Where all legs sell the same token, native value is only wrapped with a deposit. -/
theorem deposit_of_shared_source (admits : Admits network route templates wraps)
    (shared : ∀ leg ∈ route.legs, ∀ other ∈ route.legs,
      Address.normalize leg.srcToken.text = Address.normalize other.srcToken.text)
    {leg : Leg} {template : CallTemplate} (member : (leg, template) ∈ route.legs.zip templates)
    (native : network.isNative leg.srcToken.text = true) (needs : template.needsWrap = true) :
    (WrapTemplates.deposit? wraps).isSome = true := by
  obtain ⟨legMember, templateMember⟩ := List.of_mem_zip member
  obtain ⟨first, same⟩ := Plan.first_of_ordered network wraps admits.aligned
  have found : (templates.findIdx? (·.needsWrap)).isSome = true := by
    rw [List.findIdx?_isSome, List.any_eq_true]
    exact ⟨template, templateMember, needs⟩
  obtain ⟨index, found⟩ := Option.isSome_iff_exists.mp found
  obtain ⟨current, at', its, -⟩ := same index found
  -- the inspected leg sells native value, as the given one does
  have sells : network.isNative current.leg.srcToken.text = true := by
    rw [Network.isNative, shared _ (List.mem_of_getElem? its) leg legMember]
    exact native
  by_contra none
  rw [Bool.not_eq_true, Option.isSome_eq_false_iff, Option.isNone_iff_eq_none] at none
  have missing : (missingDeposit? network wraps route.legs templates).isSome = true := by
    refine (isSome_missingDeposit? first fun index wanted => ?_).mpr
      ⟨by rw [first, found]; rfl, ⟨current, at', sells⟩, none⟩
    obtain ⟨current, at', its, -⟩ := same index wanted
    exact ⟨current, at', its⟩
  rw [admits.deposit] at missing
  cases missing

/-- In the order of assembly the leg that the preconditions inspect stands, with its template
and its flags, behind all legs that need no wrapping, and is the first one found to need it.
A payload has its deposit there, for the exchange of that leg, and nowhere else; and it has it
whenever all legs sell the same token and some leg has native value wrapped. -/
theorem deposit_of_inspected_leg (aligned : templates.length = route.legs.length) :
    (∀ flags : List LegFlags, flags.length = route.legs.length →
      ∃ ordered, OrderedLeg.order route.legs templates flags = .ok ordered ∧
        ordered.findIdx? (·.needsWrap) =
          (templates.findIdx? (·.needsWrap)).map (fun _ => templates.countP (!·.needsWrap)) ∧
        (∀ index, templates.findIdx? (·.needsWrap) = some index →
          ∃ current, ordered[templates.countP (!·.needsWrap)]? = some current ∧
            route.legs[index]? = some current.leg ∧ templates[index]? = some current.template ∧
            flags[index]? = some current.flags) ∧
        ((missingDeposit? network wraps route.legs templates).isSome = true ↔
          ordered.findIdx? (·.needsWrap) = some (templates.countP (!·.needsWrap)) ∧
            (∃ current, ordered[templates.countP (!·.needsWrap)]? = some current ∧
              network.isNative current.leg.srcToken.text = true) ∧
            WrapTemplates.deposit? wraps = none)) ∧
      ∀ sender payload, (compile network route templates sender wraps).outcome = .ok payload →
        ∃ contents, Payload.read? payload = some contents ∧
          (∀ i j, contents.DepositsAt i j ↔ i = templates.countP (!·.needsWrap) ∧ j = 1 ∧
            (∃ template ∈ templates, template.needsWrap = true) ∧
            (WrapTemplates.deposit? wraps).isSome = true) ∧
          (∀ template deposit, templates.find? (·.needsWrap) = some template →
            WrapTemplates.deposit? wraps = some deposit →
            ∃ frame rest, contents.frames[templates.countP (!·.needsWrap)]? = some frame ∧
              frame.calls =
                Plan.approve (Address.bytesOf network.wrappedNative) template.target.bytes ::
                  Plan.deposit deposit :: rest) ∧
          ((∀ leg ∈ route.legs, ∀ other ∈ route.legs,
              Address.normalize leg.srcToken.text = Address.normalize other.srcToken.text) →
            ∀ leg template, (leg, template) ∈ route.legs.zip templates →
              network.isNative leg.srcToken.text = true → template.needsWrap = true →
                contents.DepositsAt (templates.countP (!·.needsWrap)) 1) := by
  constructor
  · intro flags aligned'
    obtain ⟨ordered, arranged, first, same⟩ := OrderedLeg.exists_order aligned aligned'
    refine ⟨ordered, arranged, first, same, isSome_missingDeposit? first fun index wanted => ?_⟩
    obtain ⟨current, at', its, -⟩ := same index wanted
    exact ⟨current, at', its⟩
  · intro sender payload h
    obtain ⟨admits, -, -⟩ := compile_sound h
    have read := read?_of_compile h
    refine ⟨_, read, fun i j => depositsAt_iff h read, ?_, ?_⟩
    · intro template deposit wanted given
      exact frame_of_deposit h read wanted given
    · intro shared leg template member native needs
      obtain ⟨-, templateMember⟩ := List.of_mem_zip member
      exact (depositsAt_iff h read).mpr ⟨rfl, rfl, ⟨template, templateMember, needs⟩,
        deposit_of_shared_source admits shared member native needs⟩

theorem deposit_of_inspected_leg_in_front :
    ∃ payload contents frame rest,
      (compile Sample.network Sample.sellsHalves Sample.wrappingFirst "" Sample.wraps).outcome =
        .ok payload ∧
      Payload.read? payload = some contents ∧
      contents.DepositsAt 1 1 ∧ (∀ i j, contents.DepositsAt i j → i = 1 ∧ j = 1) ∧
      contents.frames[1]? = some frame ∧
      frame.calls =
        Plan.approve (Address.bytesOf Sample.network.wrappedNative) Sample.exchange.bytes ::
          Plan.deposit Sample.deposit :: rest := by
  obtain ⟨payload, made⟩ := Sample.exists_payload_of_sellsHalves
  have aligned : Sample.wrappingFirst.length = Sample.sellsHalves.legs.length := rfl
  obtain ⟨contents, read, only, start, sold⟩ :=
    (deposit_of_inspected_leg aligned).2 "" payload made
  obtain ⟨frame, rest, inside, calls⟩ :=
    start (Sample.template true true) Sample.deposit rfl rfl
  have shared : ∀ leg ∈ Sample.sellsHalves.legs, ∀ other ∈ Sample.sellsHalves.legs,
      Address.normalize leg.srcToken.text = Address.normalize other.srcToken.text := by
    simp [Sample.sellsHalves, Sample.route, PriceRoute.legs, Sample.halves, Sample.leg]
  have deposits := sold shared (Sample.leg Sample.native Sample.token 50)
    (Sample.template true true) List.mem_cons_self Sample.isNative_native rfl
  refine ⟨payload, contents, frame, rest, made, read, deposits, ?_, inside, calls⟩
  intro i j found
  obtain ⟨at', second, -⟩ := (only i j).mp found
  exact ⟨at', second⟩

end Compiler

end SwapCompiler
