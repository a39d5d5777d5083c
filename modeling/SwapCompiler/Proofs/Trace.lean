import SwapCompiler.Proofs.LegReports

/-!
# What a trace tells

The events of a run say how far it came, whether it succeeds or not: the shares first if they are
off, then one event for each leg that was framed, in the order of assembly, and the payload at the
end if there is one. What they say is what the payload has (`Compiler.trace_truthful`).
-/

namespace SwapCompiler

/-- The size of the calls that an event reports. -/
def Event.callDataSize : Event → Nat
  | .legAssembled _ _ _ _ _ callDataSize _ => callDataSize
  | _ => 0

namespace Plan

/-- The sizes that are reported make up the frames. -/
theorem sum_callDataSize (network : Network) (wraps : Option WrapTemplates)
    (ordered : List OrderedLeg) :
    ((reports network wraps ordered).map fun event => 32 + event.callDataSize).sum =
      ((frames network wraps ordered).flatMap Payload.LegFrame.encode).length := by
  rw [List.length_flatMap, reports, frames, List.mapIdx_eq_zipIdx_map, List.mapIdx_eq_zipIdx_map,
    List.map_map, List.map_map]
  exact congrArg List.sum
    (List.map_congr_left fun place _ => (Payload.LegFrame.length_encode _).symm)

/-- As many legs need wrapping as templates. -/
theorem countP_needsWrap (network : Network) (wraps : Option WrapTemplates) {legs : List Leg}
    {templates : List CallTemplate} (aligned : templates.length = legs.length) :
    (ordered network wraps legs templates).countP (·.needsWrap) =
      templates.countP (·.needsWrap) := by
  obtain ⟨-, column, -⟩ := OrderedLeg.join_eq_ok.mp
    (OrderedLeg.join_eq (flags network wraps legs.length) aligned)
  conv_rhs => rw [← column, List.countP_map]
  exact (OrderedLeg.perm_arrange _).countP_eq _

end Plan

namespace Compiler

variable {network : Network} {route : PriceRoute} {templates : List CallTemplate}
  {sender : String} {wraps : Option WrapTemplates} {payload : Bytes}

/-! ## Preconditions -/

/-- The report that the shares are off, of a route that has legs and a template for each. -/
def sharesReport? (route : PriceRoute) (templates : List CallTemplate) : Option Event :=
  match route.bestRoute with
  | [] => none
  | best :: _ =>
    if best.legs ≠ [] ∧ templates.length = best.legs.length ∧ isOff best.totalPercent then
      some (.percentagesOff best.totalPercent best.legs.length)
    else none

theorem sharesReport?_eq_none (h : route.legs = [] ∨ templates.length ≠ route.legs.length) :
    sharesReport? route templates = none := by
  unfold sharesReport?
  unfold PriceRoute.legs at h
  cases listed : route.bestRoute with
  | nil => rfl
  | cons best others =>
    rw [listed] at h
    refine if_neg ?_
    rintro ⟨legs, aligned, -⟩
    exact h.elim legs fun misaligned => misaligned aligned

theorem events_checkPreconditions (network : Network) (route : PriceRoute)
    (templates : List CallTemplate) (wraps : Option WrapTemplates) :
    (checkPreconditions network route templates wraps).events =
      (sharesReport? route templates).toList := by
  unfold checkPreconditions sharesReport?
  cases route.bestRoute with
  | nil => rfl
  | cons best others =>
    by_cases empty : best.legs = []
    · simp only [empty, List.isEmpty_nil, if_true, ne_eq, not_true_eq_false, false_and, if_false]
      rfl
    · simp only [List.isEmpty_iff, empty, if_false, ne_eq, not_false_eq_true, true_and]
      by_cases aligned : templates.length = best.legs.length
      · simp only [aligned, not_true_eq_false, if_false, true_and]
        split <;> cases missingDeposit? network wraps best.legs templates <;> rfl
      · simp only [aligned, not_false_eq_true, if_true, false_and, if_false]
        rfl

/-- A route that is refused leaves nothing but a report of its shares. -/
theorem compile_of_refused (sender : String) {fault : Fault}
    (refused : (checkPreconditions network route templates wraps).outcome = .error fault) :
    (compile network route templates sender wraps).outcome = .error fault ∧
      (compile network route templates sender wraps).events =
        (sharesReport? route templates).toList := by
  constructor
  · rw [outcome_compile, refused, Outcome.error_bind]
  · rw [compile, Traced.events_bind_of_error refused, events_checkPreconditions]

/-- Where nothing can be assembled nothing is reported. -/
theorem events_eq_nil (network : Network) (sender : String) (wraps : Option WrapTemplates)
    (h : route.legs = [] ∨ templates.length ≠ route.legs.length) :
    (compile network route templates sender wraps).events = [] := by
  have refused : ¬ Admits network route templates wraps := fun admits =>
    h.elim admits.legs fun misaligned => misaligned admits.aligned
  rw [← outcome_checkPreconditions_eq_ok] at refused
  cases checked : (checkPreconditions network route templates wraps).outcome with
  | ok _ => exact absurd checked refused
  | error fault =>
    rw [(compile_of_refused sender checked).2, sharesReport?_eq_none h]
    rfl

/-! ## Behind the preconditions -/

/-- The steps behind the order of assembly, with their reports. -/
def assemble (network : Network) (wraps : Option WrapTemplates) (ordered : List OrderedLeg)
    (sender : String) : Traced Bytes := do
  let frames ← Assembly.legFrames network wraps ordered (List.range ordered.length)
  let payload ← Payload.frame frames.flatten
  Traced.report (.payloadBuilt .three (Address.normalize sender) ordered.length
    (ordered.countP (·.needsWrap)) frames.flatten.length payload.length)
  return payload

theorem compile_of_admits (sender : String) (admits : Admits network route templates wraps) :
    compile network route templates sender wraps =
      checkPreconditions network route templates wraps >>= fun _ =>
        assemble network wraps (Plan.ordered network wraps route.legs templates) sender := by
  simp only [compile, Classification.flags_eq network wraps admits.aligned, Traced.lift_ok_bind,
    OrderedLeg.order_eq network wraps admits.aligned]
  rfl

/-- An admitted route is assembled in its order behind the report of its shares. -/
theorem events_of_admits (sender : String) (admits : Admits network route templates wraps) :
    (compile network route templates sender wraps).events =
        (sharesReport? route templates).toList ++
          (assemble network wraps (Plan.ordered network wraps route.legs templates) sender).events ∧
      (compile network route templates sender wraps).outcome =
        (assemble network wraps (Plan.ordered network wraps route.legs templates)
          sender).outcome := by
  have checked := outcome_checkPreconditions_eq_ok.mpr admits
  rw [compile_of_admits sender admits, Traced.events_bind_of_ok checked, events_checkPreconditions,
    Traced.outcome_bind, checked, Outcome.ok_bind]
  exact ⟨rfl, rfl⟩

variable {ordered : List OrderedLeg}

/-- An assembly that fails reports the legs in front of the first that is not framed, and fails
with the fault of that leg if there is one. -/
theorem assemble_of_error (assigned : ∀ current ∈ ordered, current.Assigned network)
    {fault : Fault} (failed : (assemble network wraps ordered sender).outcome = .error fault) :
    (assemble network wraps ordered sender).events =
        (Plan.reports network wraps ordered).take (Assembly.framedCount network wraps ordered) ∧
      (Assembly.framedCount network wraps ordered < ordered.length →
        (Assembly.legFrame network wraps ordered
          (Assembly.framedCount network wraps ordered)).outcome = .error fault) := by
  have reported := Assembly.events_legFrames wraps assigned
  cases made : (Assembly.legFrames network wraps ordered (List.range ordered.length)).outcome with
  | error fault' =>
    rw [assemble, Traced.events_bind_of_error made, reported]
    rw [assemble, Traced.outcome_bind, made, Outcome.error_bind] at failed
    cases failed
    refine ⟨rfl, fun short => ?_⟩
    obtain ⟨position, there, failed⟩ := Assembly.exists_unframed made
    rw [← Assembly.framedCount, List.getElem?_range short] at there
    cases there
    exact failed
  | ok frames =>
    have all := Assembly.framedCount_eq_length made
    refine ⟨?_, fun short => absurd all (Nat.ne_of_lt short)⟩
    rw [assemble, Traced.outcome_bind, made, Outcome.ok_bind] at failed
    rw [assemble, Traced.events_bind_of_ok made, reported]
    cases framed : Payload.frame frames.flatten with
    | error fault' => exact List.append_nil _
    | ok payload =>
      rw [framed] at failed
      cases failed

/-- An assembly that succeeds reports all legs, and then the payload of their frames. -/
theorem assemble_of_ok (assigned : ∀ current ∈ ordered, current.Assigned network)
    (made : (assemble network wraps ordered sender).outcome = .ok payload) :
    (assemble network wraps ordered sender).events =
        (Plan.reports network wraps ordered).take (Assembly.framedCount network wraps ordered) ++
          [.payloadBuilt .three (Address.normalize sender) ordered.length
            (ordered.countP (·.needsWrap))
            ((Plan.frames network wraps ordered).flatMap Payload.LegFrame.encode).length
            payload.length] ∧
      Assembly.framedCount network wraps ordered = ordered.length := by
  rw [assemble, Traced.outcome_bind] at made
  obtain ⟨frames, framed, made⟩ := Outcome.bind_eq_ok.mp made
  have all := Assembly.framedCount_eq_length framed
  refine ⟨?_, all⟩
  obtain ⟨-, rfl⟩ := (Assembly.legFrames_follows network wraps assigned).sound frames framed
  rw [Traced.outcome_bind] at made
  obtain ⟨_, joined, made⟩ := Outcome.bind_eq_ok.mp made
  cases made
  rw [assemble, Traced.events_bind_of_ok framed, Assembly.events_legFrames wraps assigned]
  rw [Traced.outcome_monadLift] at joined
  rw [joined, List.flatMap_def]
  rfl

/-- What a payload of a route holds behind its two words. -/
theorem frames_of_compile
    (h : (compile network route templates sender wraps).outcome = .ok payload) :
    Payload.read? payload = some ⟨32, payload.length - 64 + 96,
        Plan.routeFrames network route templates wraps⟩ ∧
      payload.drop 64 =
        (Plan.routeFrames network route templates wraps).flatMap Payload.LegFrame.encode ∧
      payload.length = 64 +
        ((Plan.routeFrames network route templates wraps).flatMap Payload.LegFrame.encode).length := by
  have read := read?_of_compile h
  obtain ⟨-, -, rfl⟩ := compile_sound h
  have length : (Plan.payload network route templates wraps).length =
      64 + (Plan.body network route templates wraps).length := Payload.length_encode _
  refine ⟨?_, Payload.drop_encode _, length⟩
  rw [read, length, Nat.add_sub_cancel_left]
  rfl

end Compiler

/-! ## The whole trace -/

namespace Sample

/-- Two legs that sell native value and share more than a hundred percent. The first one needs
wrapping, so it is assembled last. -/
def offLegs (srcAmount : String) : List Leg :=
  [{ leg native token 60 with srcAmount }, leg native token 70]

def offTemplates : List CallTemplate := [template true true, template true false]

def offReport (srcAmount : String) : Event :=
  .percentagesOff (Route.totalPercent ⟨.int 100, offLegs srcAmount⟩) 2

theorem sharesReport?_offLegs (srcAmount : String) :
    Compiler.sharesReport? (route (offLegs srcAmount)) offTemplates =
      some (offReport srcAmount) := by
  refine if_pos ⟨List.cons_ne_nil _ _, rfl, ?_⟩
  have total : Compiler.isOff (.int 0 + .float 60 + .float 70) = true := by
    decide +kernel
  exact total

theorem admits_offLegs (srcAmount : String) :
    Compiler.Admits network (route (offLegs srcAmount)) offTemplates wraps := by
  refine ⟨List.cons_ne_nil _ _, rfl, ?_⟩
  have given : (network.isNative native.text && (WrapTemplates.deposit? wraps).isNone) = false := by
    decide +kernel
  exact if_neg (Bool.eq_false_iff.mp given)

end Sample

namespace Compiler

/-- The trace is true of every run: at most one report that the shares are off, then one for each
leg that is framed before the first failure, in the order of assembly, then one of the payload if
there is one. Nothing is reported of a route without legs or with another number of templates, and
no leg of a route that is refused. A leg's report has the numbers of its frame, and that of the
payload the numbers of the payload: its legs, the templates that need wrapping, and its sizes. -/
theorem trace_truthful (network : Network) (route : PriceRoute) (templates : List CallTemplate)
    (sender : String) (wraps : Option WrapTemplates) :
    ∃ legs completion : List Event,
      (compile network route templates sender wraps).events =
        (sharesReport? route templates).toList ++ legs ++ completion ∧
      (route.legs = [] ∨ templates.length ≠ route.legs.length →
        (compile network route templates sender wraps).events = []) ∧
      (∀ fault, (checkPreconditions network route templates wraps).outcome = .error fault →
        (compile network route templates sender wraps).outcome = .error fault ∧
          legs = [] ∧ completion = []) ∧
      ((checkPreconditions network route templates wraps).outcome = .ok () →
        ∃ flags ordered frames,
          Classification.flags network wraps route.legs templates = .ok flags ∧
          OrderedLeg.order route.legs templates flags = .ok ordered ∧
          ordered.length = route.legs.length ∧
          Assembly.Reported network wraps ordered frames legs ∧
          (∀ fault, (compile network route templates sender wraps).outcome = .error fault →
            completion = [] ∧
            (legs.length < ordered.length →
              (Assembly.legFrame network wraps ordered legs.length).outcome = .error fault)) ∧
          ∀ payload, (compile network route templates sender wraps).outcome = .ok payload →
            legs.length = ordered.length ∧
            Payload.read? payload = some ⟨32, payload.length - 64 + 96, frames⟩ ∧
            payload.drop 64 = frames.flatMap Payload.LegFrame.encode ∧
            ∃ bodySize payloadSize,
              completion = [.payloadBuilt .three (Address.normalize sender) route.legs.length
                (templates.countP (·.needsWrap)) bodySize payloadSize] ∧
              bodySize = (legs.map fun event => 32 + event.callDataSize).sum ∧
              payloadSize = bodySize + 64 ∧ payload.length = payloadSize) := by
  cases checked : (checkPreconditions network route templates wraps).outcome with
  | error fault =>
    obtain ⟨failed, events⟩ := compile_of_refused sender checked
    refine ⟨[], [], ?_, events_eq_nil network sender wraps, ?_, ?_⟩
    · rw [events, List.append_nil, List.append_nil]
    · rintro _ ⟨⟩
      exact ⟨failed, rfl, rfl⟩
    · rintro ⟨⟩
  | ok _ =>
    -- an admitted route reports what it frames of the planned order, however it ends
    have admits := outcome_checkPreconditions_eq_ok.mp checked
    obtain ⟨flags, classified, arranged⟩ := order_of_admits admits
    obtain ⟨events, outcome⟩ := events_of_admits sender admits
    have assigned : ∀ current ∈ Plan.ordered network wraps route.legs templates,
        current.Assigned network := fun _ => Plan.assigned_ordered
    have aligned := Plan.length_ordered network wraps admits.aligned
    have reported := Assembly.reported_take_reports wraps assigned
    cases made : (compile network route templates sender wraps).outcome with
    | error fault =>
      obtain ⟨reports, unframed⟩ := assemble_of_error assigned (outcome.symm.trans made)
      refine ⟨_, [], ?_, events_eq_nil network sender wraps, fun _ h => (nomatch h), fun _ =>
        ⟨flags, _, _, classified, arranged, aligned, reported, ?_, fun _ h => (nomatch h)⟩⟩
      · rw [events, reports, List.append_nil]
      · rintro _ ⟨⟩
        rw [reported.count]
        exact ⟨rfl, unframed⟩
    | ok payload =>
      obtain ⟨reports, all⟩ := assemble_of_ok assigned (outcome.symm.trans made)
      obtain ⟨read, body, length⟩ := frames_of_compile made
      rw [reports, ← List.append_assoc] at events
      refine ⟨_, _, events, events_eq_nil network sender wraps, fun _ h => (nomatch h), fun _ =>
        ⟨flags, _, _, classified, arranged, aligned, reported, fun _ h => (nomatch h), ?_⟩⟩
      rintro _ ⟨⟩
      -- the report counts the ordered legs, which are those of the route with its templates
      refine ⟨reported.count.trans all, read, body, _, _, ?_, ?_, length.trans (Nat.add_comm _ _),
        rfl⟩
      · rw [aligned, Plan.countP_needsWrap network wraps admits.aligned]
        rfl
      · rw [all, List.take_of_length_le (Nat.le_of_eq (Plan.length_reports _ _ _)),
          Plan.sum_callDataSize]
        rfl

theorem trace_truthful_of_shares_off :
    (∃ payload reports bodySize,
      (compile Sample.network (Sample.route (Sample.offLegs "1000")) Sample.offTemplates "0xAB"
        Sample.wraps).outcome = .ok payload ∧
      (compile Sample.network (Sample.route (Sample.offLegs "1000")) Sample.offTemplates "0xAB"
        Sample.wraps).events =
          [Sample.offReport "1000"] ++ reports ++
            [.payloadBuilt .three "0xab" 2 1 bodySize (bodySize + 64)] ∧
      reports.length = 2 ∧ payload.length = bodySize + 64) ∧
    ∃ fault reports,
      (compile Sample.network (Sample.route (Sample.offLegs "True")) Sample.offTemplates "0xAB"
        Sample.wraps).outcome = .error fault ∧
      (compile Sample.network (Sample.route (Sample.offLegs "True")) Sample.offTemplates "0xAB"
        Sample.wraps).events = [Sample.offReport "True"] ++ reports ∧
      reports.length = 1 := by
  constructor
  · obtain ⟨reports, completion, events, -, -, admitted⟩ := trace_truthful Sample.network
      (Sample.route (Sample.offLegs "1000")) Sample.offTemplates "0xAB" Sample.wraps
    have admits := Sample.admits_offLegs "1000"
    obtain ⟨flags, ordered, frames, -, -, length, -, -, succeeds⟩ :=
      admitted (outcome_checkPreconditions_eq_ok.mpr admits)
    have made : (compile Sample.network (Sample.route (Sample.offLegs "1000"))
        Sample.offTemplates "0xAB" Sample.wraps).outcome.isOk = true := by
      decide +kernel
    obtain ⟨payload, made⟩ := Outcome.exists_of_isOk made
    obtain ⟨all, -, -, bodySize, _, rfl, -, rfl, size⟩ := succeeds payload made
    have sender : Address.normalize "0xAB" = "0xab" := by
      decide +kernel
    rw [Sample.sharesReport?_offLegs, sender] at events
    exact ⟨payload, reports, bodySize, made, events, all.trans length, size⟩
  · obtain ⟨reports, completion, events, -, -, admitted⟩ := trace_truthful Sample.network
      (Sample.route (Sample.offLegs "True")) Sample.offTemplates "0xAB" Sample.wraps
    have admits := Sample.admits_offLegs "True"
    obtain ⟨flags, ordered, frames, classified, arranged, -, reported, fails, succeeds⟩ :=
      admitted (outcome_checkPreconditions_eq_ok.mpr admits)
    obtain ⟨_, classified', arranged'⟩ := order_of_admits admits
    cases classified.symm.trans classified'
    cases arranged.symm.trans arranged'
    have first : Assembly.framedCount Sample.network Sample.wraps
        (Plan.ordered Sample.network Sample.wraps (Sample.route (Sample.offLegs "True")).legs
          Sample.offTemplates) = 1 := by
      decide +kernel
    cases made : (compile Sample.network (Sample.route (Sample.offLegs "True"))
        Sample.offTemplates "0xAB" Sample.wraps).outcome with
    | error fault =>
      obtain ⟨rfl, -⟩ := fails fault made
      rw [Sample.sharesReport?_offLegs, List.append_nil] at events
      exact ⟨fault, reports, rfl, events, reported.count.trans first⟩
    | ok payload =>
      obtain ⟨all, -⟩ := succeeds payload made
      rw [reported.count, first] at all
      cases all

end Compiler

end SwapCompiler
