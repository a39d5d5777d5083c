import SwapCompiler.Proofs.Codec
import SwapCompiler.Proofs.LegCalls
import Mathlib.Data.List.TakeWhile

/-!
# What is reported of legs

The legs of a run are framed one after another, up to the first that cannot be. Each that is framed
leaves one report, and no other leaves any (`Assembly.events_legFrames`). What a report says is so
in the frame (`Assembly.Told`).
-/

namespace SwapCompiler

/-! ## Events of a run -/

namespace Traced

variable {α β : Type} {run : Traced α} {next : α → Traced β}

theorem events_bind_of_ok {value : α} (h : run.outcome = .ok value) :
    (run >>= next).events = run.events ++ (next value).events := by
  cases run
  cases h
  rfl

theorem events_bind_of_error {fault : Fault} (h : run.outcome = .error fault) :
    (run >>= next).events = run.events := by
  cases run
  cases h
  rfl

theorem events_bind_pure (run : Traced α) (f : α → β) :
    (run >>= fun value => pure (f value)).events = run.events := by
  cases made : run.outcome with
  | error fault => exact events_bind_of_error made
  | ok value => exact (events_bind_of_ok made).trans (List.append_nil _)

@[simp] theorem lift_ok_bind (value : α) (next : α → Traced β) :
    ((liftM (Except.ok value : Except Fault α) : Traced α) >>= next) = next value := rfl

end Traced

/-! ## The legs that are framed -/

/-- What is reported of the leg at a position. -/
def Plan.report (network : Network) (wraps : Option WrapTemplates) (ordered : List OrderedLeg)
    (position : Nat) (current : OrderedLeg) : Event :=
  .legAssembled position current.template.target.text current.flags.dex current.leg.percent
    (Assembly.needsWithdraw network ordered current)
    (Plan.frame network wraps ordered position current).body.length
    (network.isNative current.leg.destToken.text)

/-- What is reported of all legs, in the order of assembly. -/
def Plan.reports (network : Network) (wraps : Option WrapTemplates) (ordered : List OrderedLeg) :
    List Event :=
  ordered.mapIdx (report network wraps ordered)

@[simp] theorem Plan.length_reports (network : Network) (wraps : Option WrapTemplates)
    (ordered : List OrderedLeg) : (reports network wraps ordered).length = ordered.length :=
  List.length_mapIdx

namespace Assembly

variable {network : Network} {wraps : Option WrapTemplates} {ordered : List OrderedLeg}
  {position : Nat} {current : OrderedLeg}

/-- Whether the leg at a position is framed. -/
def framed (network : Network) (wraps : Option WrapTemplates) (ordered : List OrderedLeg)
    (position : Nat) : Bool :=
  (legFrame network wraps ordered position).outcome.isOk

theorem framed_of_ok {frame : Bytes}
    (made : (legFrame network wraps ordered position).outcome = .ok frame) :
    framed network wraps ordered position = true := by
  rw [framed, made]
  rfl

theorem framed_of_error {fault : Fault}
    (failed : (legFrame network wraps ordered position).outcome = .error fault) :
    framed network wraps ordered position = false := by
  rw [framed, failed]
  rfl

/-- The number of legs that are framed in front of the first that is not. -/
def framedCount (network : Network) (wraps : Option WrapTemplates) (ordered : List OrderedLeg) :
    Nat :=
  ((List.range ordered.length).takeWhile (framed network wraps ordered)).length

/-- A leg is reported if it is framed, and not otherwise. -/
theorem events_legFrame (wraps : Option WrapTemplates) (at' : ordered[position]? = some current)
    (assigned : current.Assigned network) :
    (legFrame network wraps ordered position).events =
      if framed network wraps ordered position then
        [Plan.report network wraps ordered position current]
      else [] := by
  simp only [framed, legFrame, legAt_natCast at', Traced.lift_ok_bind]
  cases made : calls network wraps ordered position current with
  | error fault => rfl
  | ok calls =>
    obtain ⟨-, rfl⟩ := (calls_follows assigned).sound calls made
    rw [Traced.lift_ok_bind]
    cases Payload.legFrame (Call.encodeAll (Plan.calls network wraps ordered position current))
        (.float current.leg.percent) current.leg.srcToken.text current.leg.destToken.text
        (needsWithdraw network ordered current) with
    | error fault => rfl
    | ok frame => rfl

/-- The reports of the legs at some places, by induction on these: a leg that is not framed ends
the run. -/
theorem events_legFrames_of (wraps : Option WrapTemplates) {places : List (OrderedLeg × Nat)}
    (at' : ∀ place ∈ places, ordered[place.2]? = some place.1)
    (assigned : ∀ place ∈ places, place.1.Assigned network) :
    (legFrames network wraps ordered (places.map (·.2))).events =
      (places.takeWhile fun place => framed network wraps ordered place.2).map fun place =>
        Plan.report network wraps ordered place.2 place.1 := by
  induction places with
  | nil => rfl
  | cons place rest ih =>
    rw [List.forall_mem_cons] at at' assigned
    have first := events_legFrame wraps at'.1 assigned.1
    rw [List.map_cons, legFrames, List.takeWhile_cons]
    cases made : (legFrame network wraps ordered place.2).outcome with
    | error fault =>
      rw [Traced.events_bind_of_error made, first, framed_of_error made]
      rfl
    | ok frame =>
      rw [Traced.events_bind_of_ok made, Traced.events_bind_pure, ih at'.2 assigned.2, first,
        framed_of_ok made]
      rfl

/-- The legs in front of the first that is not framed are reported, in the order of assembly. -/
theorem events_legFrames (wraps : Option WrapTemplates)
    (assigned : ∀ current ∈ ordered, current.Assigned network) :
    (legFrames network wraps ordered (List.range ordered.length)).events =
      (Plan.reports network wraps ordered).take (framedCount network wraps ordered) := by
  have member {place : OrderedLeg × Nat} (h : place ∈ ordered.zipIdx) :
      ordered[place.2]? = some place.1 :=
    List.mem_zipIdx_iff_getElem?.mp h
  have positions : ordered.zipIdx.map (·.2) = List.range ordered.length := by
    rw [List.range_eq_range']
    exact List.zipIdx_map_snd 0 ordered
  have events := events_legFrames_of wraps (fun place h => member h)
    fun place h => assigned _ (List.mem_of_getElem? (member h))
  -- what is taken of the places is a beginning, and as long as what is taken of the positions
  have front := List.prefix_iff_eq_take.mp
    (List.takeWhile_prefix (l := ordered.zipIdx) fun place => framed network wraps ordered place.2)
  have count : (ordered.zipIdx.takeWhile fun place =>
      framed network wraps ordered place.2).length = framedCount network wraps ordered := by
    rw [framedCount, ← positions, List.takeWhile_map, List.length_map]
    rfl
  rw [positions, front, count, List.map_take] at events
  rw [events, Plan.reports, List.mapIdx_eq_zipIdx_map]

theorem framedCount_le (network : Network) (wraps : Option WrapTemplates)
    (ordered : List OrderedLeg) : framedCount network wraps ordered ≤ ordered.length := by
  rw [framedCount]
  refine (List.takeWhile_prefix _).length_le.trans ?_
  rw [List.length_range]

/-- The legs that are framed before the first failure stand in front of all others. -/
theorem takeWhile_framed (network : Network) (wraps : Option WrapTemplates)
    (ordered : List OrderedLeg) :
    (List.range ordered.length).takeWhile (framed network wraps ordered) =
      List.range (framedCount network wraps ordered) := by
  have front : (List.range ordered.length).takeWhile (framed network wraps ordered) <+:
      List.range ordered.length := List.takeWhile_prefix _
  rw [List.prefix_iff_eq_take.mp front, ← framedCount, List.take_range,
    min_eq_left (framedCount_le network wraps ordered)]

theorem exists_frame_of_lt (h : position < framedCount network wraps ordered) :
    ∃ frame, (legFrame network wraps ordered position).outcome = .ok frame := by
  have member := List.mem_range.mpr h
  rw [← takeWhile_framed] at member
  have framed : framed network wraps ordered position = true := List.mem_takeWhile_imp member
  exact Outcome.exists_of_isOk framed

theorem framedCount_eq_length {frames : List Bytes}
    (h : (legFrames network wraps ordered (List.range ordered.length)).outcome = .ok frames) :
    framedCount network wraps ordered = ordered.length := by
  have all : ∀ position ∈ List.range ordered.length, framed network wraps ordered position := by
    intro position member
    obtain ⟨frame, made⟩ := exists_legFrame h position member
    exact framed_of_ok made
  rw [framedCount, List.takeWhile_eq_self_iff.mpr all, List.length_range]

/-- Where not all legs are framed, the first that is not ends the run with its fault. -/
theorem exists_unframed {positions : List Nat} {fault : Fault}
    (h : (legFrames network wraps ordered positions).outcome = .error fault) :
    ∃ position,
      positions[(positions.takeWhile (framed network wraps ordered)).length]? = some position ∧
      (legFrame network wraps ordered position).outcome = .error fault := by
  induction positions with
  | nil => cases h
  | cons first rest ih =>
    rw [legFrames, Traced.outcome_bind, Outcome.bind_eq_error] at h
    obtain failed | ⟨frame, made, failed⟩ := h
    · refine ⟨first, ?_, failed⟩
      rw [List.takeWhile_cons_of_neg (Bool.eq_false_iff.mp (framed_of_error failed))]
      rfl
    · rw [Traced.outcome_bind, Outcome.bind_eq_error] at failed
      obtain failed | ⟨frames, -, failed⟩ := failed
      · obtain ⟨position, there, failed⟩ := ih failed
        rw [List.takeWhile_cons_of_pos (framed_of_ok made)]
        exact ⟨position, there, failed⟩
      · cases failed

/-! ## What is said of a leg -/

/-- What is said of a leg is so in its frame: the size of the calls and whether wrapped value is
left over are fields of the header, and the target is that of the dex call up to letter case. -/
structure Told (network : Network) (wraps : Option WrapTemplates) (ordered : List OrderedLeg)
    (position : Nat) (current : OrderedLeg) (frame : Payload.LegFrame) (withdraw : Bool)
    (size : Nat) : Prop where
  framed : (legFrame network wraps ordered position).outcome = .ok frame.encode
  header : ∃ destTokenPos srcTokenPos hundredths,
    Header.unpack? [4, 4, 8, 8, 8] frame.encode =
      some ([size, if withdraw then 1 else 0, destTokenPos, srcTokenPos, hundredths],
        Call.encodeAll frame.calls)
  calls : ∃ made : LegCalls, made.MadeFor network wraps ordered position current ∧
    frame.calls = made.all ∧ Hex.encode made.dex.target = Text.lower current.template.target.text

/-- A report is true of the frame that is made. -/
theorem told_of_legFrame (at' : ordered[position]? = some current)
    (assigned : current.Assigned network) {bytes : Bytes}
    (h : (legFrame network wraps ordered position).outcome = .ok bytes) :
    Told network wraps ordered position current
      (Plan.frame network wraps ordered position current)
      (needsWithdraw network ordered current)
      (Plan.frame network wraps ordered position current).body.length := by
  obtain ⟨fits, rfl⟩ := (legFrame_follows wraps at' assigned).sound bytes h
  obtain ⟨calls, made⟩ := exists_calls at' h
  obtain ⟨made, steps⟩ := LegCalls.exists_madeFor made
  obtain ⟨-, -, dex, all⟩ := steps.planned assigned
  refine ⟨h, ⟨_, _, _, Payload.LegFrame.unpack?_encode fits.frame⟩, made, steps, all.symm, ?_⟩
  rw [dex, ← Address.normalize_of_strict current.template.target.strict]
  exact current.template.target.encode_bytes

/-- The reports are those of the legs that are framed before the first failure, each at its position
in the order of assembly, and they are true of the frames. -/
structure Reported (network : Network) (wraps : Option WrapTemplates) (ordered : List OrderedLeg)
    (frames : List Payload.LegFrame) (reports : List Event) : Prop where
  count : reports.length = framedCount network wraps ordered
  told : ∀ position < reports.length, ∃ current frame withdraw size,
    ordered[position]? = some current ∧ frames[position]? = some frame ∧
      reports[position]? = some (.legAssembled position current.template.target.text
        current.flags.dex current.leg.percent withdraw size
        (network.isNative current.leg.destToken.text)) ∧
      Told network wraps ordered position current frame withdraw size

theorem reported_take_reports (wraps : Option WrapTemplates)
    (assigned : ∀ current ∈ ordered, current.Assigned network) :
    Reported network wraps ordered (Plan.frames network wraps ordered)
      ((Plan.reports network wraps ordered).take (framedCount network wraps ordered)) := by
  have count : ((Plan.reports network wraps ordered).take
      (framedCount network wraps ordered)).length = framedCount network wraps ordered := by
    rw [List.length_take, Plan.length_reports,
      min_eq_left (framedCount_le network wraps ordered)]
  refine ⟨count, fun position inside => ?_⟩
  rw [count] at inside
  have at' := List.getElem?_eq_getElem (inside.trans_le (framedCount_le network wraps ordered))
  obtain ⟨bytes, made⟩ := exists_frame_of_lt inside
  have told := told_of_legFrame at' (assigned _ (List.mem_of_getElem? at')) made
  refine ⟨_, _, _, _, at', ?_, ?_, told⟩
  · rw [Plan.frames, List.getElem?_mapIdx, at']
    rfl
  · rw [List.getElem?_take_of_lt inside, Plan.reports, List.getElem?_mapIdx, at']
    rfl

end Assembly

end SwapCompiler
