import SwapCompiler.Proofs.LegCalls
import SwapCompiler.Proofs.Sizes
import SwapCompiler.Proofs.TokenWords

/-!
# Where a frame has the tokens of its leg

The tokens of a leg are embedded in the data of its dex call, and this data stands as it is in the
finished calls, whatever is put around it. So both tokens are found when the calls are framed, under
any flags, and the frame has their first offsets in the finished calls
(`Assembly.legFrame_has_tokens`).
-/

namespace SwapCompiler

/-! ## The header of a frame -/

namespace Payload

variable {calls : Bytes} {percent : Number} {srcToken destToken : Address} {withdraw : Bool}
  {srcTokenPos destTokenPos : Nat}

/-- The header fields around the calls of a leg. -/
def legFields (calls : Bytes) (withdraw : Bool) (destTokenPos srcTokenPos : Nat)
    (hundredths : Int) : List Header.Field :=
  [⟨"size", calls.length, (4 : Nat)⟩,
    ⟨"withdraw_flag", (if withdraw then 1 else 0 : Nat), (4 : Nat)⟩,
    ⟨"dest_token_pos", destTokenPos, (8 : Nat)⟩, ⟨"src_token_pos", srcTokenPos, (8 : Nat)⟩,
    ⟨"percentage", hundredths, (8 : Nat)⟩]

theorem regular_legFields (calls : Bytes) (withdraw : Bool) (destTokenPos srcTokenPos : Nat)
    (hundredths : Int) :
    ∀ field ∈ legFields calls withdraw destTokenPos srcTokenPos hundredths, field.Regular := by
  simp [legFields, Header.Field.Regular]

/-- A frame is a header around the calls, once the tokens are found in them. -/
theorem legFrame_eq_bind (calls : Bytes) (percent : Number) (srcToken destToken : String)
    (withdraw : Bool) :
    legFrame calls percent srcToken destToken withdraw =
      Patch.findAddress calls srcToken "source token" >>= fun srcTokenPos =>
        Patch.findAddress calls destToken "destination token" >>= fun destTokenPos =>
          Percentage.encode percent >>= fun hundredths =>
            Header.pack (legFields calls withdraw destTokenPos srcTokenPos hundredths) calls := by
  rw [legFrame]
  cases withdraw <;> rfl

/-- Around calls in which both tokens occur, only the share and the widths can be wrong. -/
theorem legFrame_of_isFirst (src : Bytes.IsFirst srcToken.bytes calls srcTokenPos)
    (dest : Bytes.IsFirst destToken.bytes calls destTokenPos) :
    legFrame calls percent srcToken.text destToken.text withdraw =
      Percentage.encode percent >>= fun hundredths =>
        Header.pack (legFields calls withdraw destTokenPos srcTokenPos hundredths) calls := by
  rw [legFrame_eq_bind, Patch.findAddress_eq_ok.mpr src, Outcome.ok_bind,
    Patch.findAddress_eq_ok.mpr dest, Outcome.ok_bind]

theorem legFrame_ne_patternNotFound (src : Bytes.IsFirst srcToken.bytes calls srcTokenPos)
    (dest : Bytes.IsFirst destToken.bytes calls destTokenPos) (label : String) (pattern : Bytes) :
    legFrame calls percent srcToken.text destToken.text withdraw ≠
      .error (Refusal.patternNotFound label pattern) := by
  intro refused
  rw [legFrame_of_isFirst src dest] at refused
  cases share : Percentage.encode percent with
  | error fault =>
    rw [share, Outcome.error_bind] at refused
    cases refused
    exact Percentage.encode_ne_refused share
  | ok hundredths =>
    rw [share, Outcome.ok_bind] at refused
    have regular := regular_legFields calls withdraw destTokenPos srcTokenPos hundredths
    obtain ⟨_, _, _, overflow⟩ := Header.pack_onlyOverflows regular calls _ refused
    cases overflow

/-- A share is framed with calls below 4 GiB, and with no others. -/
theorem legFrame_of_share {share : Float} (positive : 0 < share) (atMost : share ≤ 100)
    (src : Bytes.IsFirst srcToken.bytes calls srcTokenPos)
    (dest : Bytes.IsFirst destToken.bytes calls destTokenPos) :
    (∃ frame, legFrame calls (.float share) srcToken.text destToken.text withdraw = .ok frame) ↔
      calls.length < 2 ^ 32 := by
  obtain ⟨hundredths, read, -, most⟩ := Percentage.encode_share positive atMost
  have fits : (∀ field ∈ legFields calls withdraw destTokenPos srcTokenPos hundredths,
      field.Fits) ↔ calls.length < 2 ^ 32 := by
    have srcInside := src.1.1
    have destInside := dest.1.1
    have size : Bytes.capacity 4 = 2 ^ 32 := rfl
    have position : Bytes.capacity 8 = 2 ^ 64 := rfl
    have flag : (if withdraw then 1 else 0) < 2 ^ 32 := by cases withdraw <;> decide
    simp only [legFields, List.forall_mem_cons, Header.fits_natCast, size, position,
      List.not_mem_nil, false_imp_iff, implies_true, and_true]
    omega
  have follows := Header.pack_follows
    (regular_legFields calls withdraw destTokenPos srcTokenPos hundredths) calls
  rw [legFrame_of_isFirst src dest, read, Outcome.ok_bind]
  constructor
  · rintro ⟨frame, made⟩
    exact fits.mp (follows.sound frame made).1
  · intro small
    exact ⟨_, follows.complete trivial (fits.mpr small)⟩

/-- The header of a frame reads back as the size of the calls and the positions of the tokens. -/
theorem unpack?_of_legFrame {frame : Bytes}
    (src : Bytes.IsFirst srcToken.bytes calls srcTokenPos)
    (dest : Bytes.IsFirst destToken.bytes calls destTokenPos)
    (made : legFrame calls percent srcToken.text destToken.text withdraw = .ok frame) :
    ∃ flag hundredths, Header.unpack? [4, 4, 8, 8, 8] frame =
      some ([calls.length, flag, destTokenPos, srcTokenPos, hundredths], calls) := by
  rw [legFrame_of_isFirst src dest] at made
  obtain ⟨hundredths, -, packed⟩ := Outcome.bind_eq_ok.mp made
  exact ⟨_, _, Header.unpack?_of_pack packed⟩

end Payload

/-! ## The finished calls of a leg -/

namespace Assembly

variable {network : Network} {wraps : Option WrapTemplates} {ordered : List OrderedLeg}
  {position : Int} {current : OrderedLeg} {calls : List Call}

/-- Whatever the flag, a dex call has the template's data with both tokens. -/
theorem data_of_dexCall {leg : Leg} {template : CallTemplate} {flag : Flag} {call : Call}
    (made : dexCall network leg template flag = .ok call) :
    call.data = Plan.dexData leg template := by
  simp only [dexCall, HexData.bytes_eq, Patch.embedToken_eq, Outcome.ok_bind,
    Outcome.bind_eq_ok] at made
  obtain ⟨_, -, _, -, _, -, made⟩ := made
  obtain ⟨-, rfl⟩ := Call.make_eq_ok.mp made
  rfl

theorem exists_dexCall (made : Assembly.calls network wraps ordered position current = .ok calls) :
    ∃ dex ∈ calls, dexCall network current.leg current.template current.flags.dex = .ok dex := by
  simp only [Assembly.calls, Outcome.ite_bind, Outcome.bind_eq_ok, Outcome.pure_eq_ok] at made
  obtain ⟨dex, madeDex, approval, -, deposit, -, cleanUp, -, rfl⟩ := made
  exact ⟨dex, by simp, madeDex⟩

/-- What occurs in the data of the dex call occurs in the finished calls. -/
theorem dexData_infix_of_calls
    (made : Assembly.calls network wraps ordered position current = .ok calls) :
    Plan.dexData current.leg current.template <:+: Call.encodeAll calls := by
  obtain ⟨dex, member, madeDex⟩ := exists_dexCall made
  rw [← data_of_dexCall madeDex]
  exact Call.data_infix_encodeAll member

theorem isFirst_srcToken
    (made : Assembly.calls network wraps ordered position current = .ok calls) :
    Bytes.IsFirst current.leg.srcToken.bytes (Call.encodeAll calls)
      (Bytes.firstOffset current.leg.srcToken.bytes (Call.encodeAll calls)) :=
  have embedded := Plan.dexData_contains_srcToken current.leg current.template
  ((Bytes.contains_iff.mp embedded).of_isInfix (dexData_infix_of_calls made)).isFirst

theorem isFirst_destToken
    (made : Assembly.calls network wraps ordered position current = .ok calls) :
    Bytes.IsFirst current.leg.destToken.bytes (Call.encodeAll calls)
      (Bytes.firstOffset current.leg.destToken.bytes (Call.encodeAll calls)) :=
  have embedded := Plan.dexData_contains_destToken current.leg current.template
  ((Bytes.contains_iff.mp embedded).of_isInfix (dexData_infix_of_calls made)).isFirst

/-- Where the calls of a leg can be made, its frame is that of the finished calls. -/
theorem outcome_legFrame (at' : legAt ordered position = .ok current)
    (made : Assembly.calls network wraps ordered position current = .ok calls) :
    (legFrame network wraps ordered position).outcome =
      Payload.legFrame (Call.encodeAll calls) (.float current.leg.percent)
        current.leg.srcToken.text current.leg.destToken.text
        (needsWithdraw network ordered current) := by
  simp only [legFrame, Traced.outcome_bind, Traced.outcome_monadLift, Traced.outcome_report,
    Traced.outcome_pure, at', made, Outcome.ok_bind]
  exact bind_pure _

end Assembly

/-! ## The main statement -/

namespace Sample

/-- A leg that sells native value, and is wrapped for it, whatever its flags say. -/
def flagged (flags : LegFlags) : OrderedLeg := ⟨leg native token 60, template true true, flags⟩

/-- The leg stands in front of one that needs no wrapping. -/
def flaggedFirst (flags others : LegFlags) : List OrderedLeg :=
  [flagged flags, ⟨leg token native 40, template false false, others⟩]

end Sample

namespace Assembly

variable {network : Network} {wraps : Option WrapTemplates} {ordered : List OrderedLeg}
  {position : Int} {current : OrderedLeg} {calls : List Call}

/-- Once the calls of a leg are made, whatever its flags, its tokens are not looked for in vain: a
share is framed exactly if the calls are below 4 GiB. The frame has the size of the calls and the
first offsets at which the tokens stand in them. -/
theorem legFrame_has_tokens (at' : legAt ordered position = .ok current)
    (made : Assembly.calls network wraps ordered position current = .ok calls) :
    (∀ label pattern, (legFrame network wraps ordered position).outcome ≠
      .error (Refusal.patternNotFound label pattern)) ∧
    (current.leg.IsShare → ((∃ frame, (legFrame network wraps ordered position).outcome =
      .ok frame) ↔ (Call.encodeAll calls).length < 2 ^ 32)) ∧
    ∀ frame, (legFrame network wraps ordered position).outcome = .ok frame →
      ∃ size flag destTokenPos srcTokenPos hundredths,
        Header.unpack? [4, 4, 8, 8, 8] frame =
          some ([size, flag, destTokenPos, srcTokenPos, hundredths], Call.encodeAll calls) ∧
        size = (Call.encodeAll calls).length ∧
        Bytes.IsFirst current.leg.destToken.bytes (Call.encodeAll calls) destTokenPos ∧
        destTokenPos + 20 ≤ size ∧
        Bytes.IsFirst current.leg.srcToken.bytes (Call.encodeAll calls) srcTokenPos ∧
        srcTokenPos + 20 ≤ size := by
  have src := isFirst_srcToken made
  have dest := isFirst_destToken made
  have srcInside := src.1.1
  have destInside := dest.1.1
  rw [Address.length_bytes] at srcInside destInside
  rw [outcome_legFrame at' made]
  refine ⟨Payload.legFrame_ne_patternNotFound src dest,
    fun share => Payload.legFrame_of_share share.1 share.2 src dest, fun frame framed => ?_⟩
  obtain ⟨flag, hundredths, read⟩ := Payload.unpack?_of_legFrame src dest framed
  exact ⟨_, flag, _, _, hundredths, read, rfl, dest, destInside, src, srcInside⟩

/-- The dex call of the first leg stands behind an approval and a deposit. No classification gives
these flags: the approval in front of the deposit has the amount inserted. -/
theorem legFrame_has_tokens_behind_deposit :
    legAt (Sample.flaggedFirst ⟨8, 3⟩ ⟨1, 2⟩) 0 = .ok (Sample.flagged ⟨8, 3⟩) ∧
      ∃ calls frame,
        Assembly.calls Sample.network Sample.wraps (Sample.flaggedFirst ⟨8, 3⟩ ⟨1, 2⟩) 0
          (Sample.flagged ⟨8, 3⟩) = .ok calls ∧
        (Sample.flagged ⟨8, 3⟩).leg.IsShare ∧
        (legFrame Sample.network Sample.wraps (Sample.flaggedFirst ⟨8, 3⟩ ⟨1, 2⟩) 0).outcome =
          .ok frame ∧
        ∃ size flag destTokenPos srcTokenPos hundredths,
          Header.unpack? [4, 4, 8, 8, 8] frame =
            some ([size, flag, destTokenPos, srcTokenPos, hundredths], Call.encodeAll calls) ∧
          size = (Call.encodeAll calls).length ∧
          Bytes.IsFirst Sample.token.bytes (Call.encodeAll calls) destTokenPos ∧
          destTokenPos + 20 ≤ size ∧
          Bytes.IsFirst Sample.native.bytes (Call.encodeAll calls) srcTokenPos ∧
          srcTokenPos + 20 ≤ size := by
  have at' : legAt (Sample.flaggedFirst ⟨8, 3⟩ ⟨1, 2⟩) 0 = .ok (Sample.flagged ⟨8, 3⟩) := rfl
  have share : (Sample.flagged ⟨8, 3⟩).leg.IsShare := ⟨by decide, by decide⟩
  have small : (Assembly.calls Sample.network Sample.wraps (Sample.flaggedFirst ⟨8, 3⟩ ⟨1, 2⟩) 0
      (Sample.flagged ⟨8, 3⟩)).toOption.any
        (fun calls => (Call.encodeAll calls).length < 2 ^ 32) = true := by
    decide +kernel
  obtain ⟨calls, made, small⟩ := Outcome.exists_of_any small
  obtain ⟨-, framed, has⟩ := legFrame_has_tokens at' made
  obtain ⟨frame, framed⟩ := (framed share).mpr (of_decide_eq_true small)
  exact ⟨at', calls, frame, made, share, framed, has frame framed⟩

end Assembly

end SwapCompiler
