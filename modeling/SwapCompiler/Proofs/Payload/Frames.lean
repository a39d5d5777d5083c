import SwapCompiler.Proofs.Bytes.Search
import SwapCompiler.Proofs.Header
import SwapCompiler.Proofs.Plan

/-!
# The frames that are written

Both frames of a payload are headers in front of what they frame. The frame of a leg is
written exactly when its values fit (`LegFrame.Fits`) and its share can be read; its tokens
have to occur in its calls. The frame of the payload is written exactly when the length of
the body fits its word.
-/

namespace SwapCompiler

/-- The share of the leg is a number of hundredths of a percent. -/
def Leg.ShareRead (leg : Leg) : Prop :=
  ∃ hundredths : Nat, Percentage.encode (.float leg.percent) = .ok hundredths

theorem Plan.hundredths_eq {leg : Leg} {hundredths : Nat}
    (read : Percentage.encode (.float leg.percent) = .ok hundredths) :
    Plan.hundredths leg = hundredths := by
  unfold Plan.hundredths
  rw [read]
  rfl

namespace Payload

/-! ## The frame of a leg -/

/-- The header fields of a leg's frame. -/
def LegFrame.fields (frame : LegFrame) : List Header.Field :=
  [⟨"size", frame.body.length, (4 : Nat)⟩, ⟨"withdraw_flag", frame.withdraw, (4 : Nat)⟩,
    ⟨"dest_token_pos", frame.destTokenPos, (8 : Nat)⟩,
    ⟨"src_token_pos", frame.srcTokenPos, (8 : Nat)⟩, ⟨"percentage", frame.hundredths, (8 : Nat)⟩]

theorem LegFrame.pack_follows (frame : LegFrame) (calls : ∀ call ∈ frame.calls, call.Fits) :
    Follows True (Header.pack frame.fields frame.body) frame.Fits frame.encode := by
  have regular : ∀ field ∈ frame.fields, field.Regular := by
    simp [fields, Header.Field.Regular]
  have bytes : Header.encode frame.fields ++ frame.body = frame.encode := by
    simp [Header.encode, fields, LegFrame.encode]
  have fits : (∀ field ∈ frame.fields, field.Fits) ↔ frame.Fits := by
    simp only [fields, List.forall_mem_cons, Header.fits_natCast]
    constructor
    · rintro ⟨size, withdraw, dest, src, share, -⟩
      exact ⟨size, withdraw, dest, src, share, calls⟩
    · rintro ⟨size, withdraw, dest, src, share, -⟩
      exact ⟨size, withdraw, dest, src, share, List.forall_mem_nil _⟩
  rw [← bytes]
  exact (Header.pack_follows regular frame.body).congr fits.mp fun _ => fits.mpr

/-- The frame of a leg around calls in which its tokens occur. -/
theorem legFrame_follows {leg : Leg} (frame : LegFrame) {withdraw : Bool}
    (calls : ∀ call ∈ frame.calls, call.Fits)
    (flag : frame.withdraw = if withdraw then 1 else 0)
    (destToken : Bytes.firstIndex? leg.destToken.bytes frame.body = some frame.destTokenPos)
    (srcToken : Bytes.firstIndex? leg.srcToken.bytes frame.body = some frame.srcTokenPos)
    (share : frame.hundredths = Plan.hundredths leg) :
    Follows leg.ShareRead
      (legFrame frame.body (.float leg.percent) leg.srcToken.text leg.destToken.text withdraw)
      (leg.ShareRead ∧ frame.Fits) frame.encode := by
  have written {hundredths : Nat}
      (read : Percentage.encode (.float leg.percent) = .ok hundredths) :
      legFrame frame.body (.float leg.percent) leg.srcToken.text leg.destToken.text withdraw =
        Header.pack frame.fields frame.body := by
    have flagged : ((if withdraw then 1 else 0 : Int)) = frame.withdraw := by
      rw [flag]
      cases withdraw <;> rfl
    rw [Plan.hundredths_eq read] at share
    simp only [legFrame, Patch.findAddress, Patch.find, Address.decode_text, Outcome.ok_bind,
      srcToken, destToken, read, flagged, LegFrame.fields, share]
    rfl
  refine ⟨fun bytes h => ?_, ?_, ?_⟩
  · have read : leg.ShareRead := by
      simp only [legFrame, Patch.findAddress, Outcome.bind_eq_ok] at h
      obtain ⟨_, -, _, -, hundredths, read, packed⟩ := h
      have fits := (Header.pack_eq_ok.mp packed).1.1 ⟨"percentage", hundredths, 8⟩ (by simp)
      exact ⟨hundredths.toNat, by rw [read, Int.toNat_of_nonneg fits.1]⟩
    obtain ⟨hundredths, read⟩ := read
    rw [written read] at h
    exact ((frame.pack_follows calls).sound bytes h).imp_left fun fits => ⟨⟨_, read⟩, fits⟩
  · rintro ⟨hundredths, read⟩ ⟨-, fits⟩
    rw [written read]
    exact (frame.pack_follows calls).complete trivial fits
  · rintro ⟨hundredths, read⟩
    rw [written read]
    exact (frame.pack_follows calls).overflows trivial

/-! ## The frame of the payload -/

/-- The header fields of a payload's frame. -/
def fields (body : Bytes) : List Header.Field :=
  [⟨"calldata_offset", dataOffset, (32 : Nat)⟩,
    ⟨"calldata_length", (body.length + callerBytes : Nat), (32 : Nat)⟩]

/-- The frame of the payload around the frames of the legs. -/
theorem frame_follows (frames : List LegFrame) :
    Follows True (frame (frames.flatMap LegFrame.encode))
      ((frames.flatMap LegFrame.encode).length + callerBytes < Bytes.capacity 32)
      (encode frames) := by
  generalize written : frames.flatMap LegFrame.encode = body
  have regular : ∀ field ∈ fields body, field.Regular := by
    simp [fields, Header.Field.Regular]
  have length : ((body.length : Int) + (callerBytes : Int)).toNat = body.length + callerBytes := by
    omega
  have bytes : Header.encode (fields body) ++ body = encode frames := by
    simp [Header.encode, fields, encode, written, length]
  have fits : (∀ field ∈ fields body, field.Fits) ↔
      body.length + callerBytes < Bytes.capacity 32 := by
    simp only [fields, List.forall_mem_cons, Header.fits_natCast]
    constructor
    · rintro ⟨-, length, -⟩
      exact length
    · intro length
      exact ⟨by decide, length, List.forall_mem_nil _⟩
  rw [← bytes]
  exact (Header.pack_follows regular body).congr fits.mp fun _ => fits.mpr

end Payload

end SwapCompiler
