import SwapCompiler.Proofs.Call
import SwapCompiler.Proofs.Patch
import SwapCompiler.Proofs.Payload.Frames
import Mathlib.Algebra.GroupWithZero.Nat

/-!
# Framing loses nothing

Any calls that can be made, in any legs that can be framed, are read back from the payload as
they were given. Nothing is supposed about what the calls are for: target, call data and header
values are arbitrary, and call data may look like headers. As the payload determines what is
read from it, calls that differ are never framed alike.
-/

namespace SwapCompiler

/-- The values that a call is made of. -/
structure Call.Values where
  target : String
  data : Bytes
  fromAmountPos : Int
  balanceCheckPos : Int
  toAmountPos : Int
  specialDex : Int
  flag : Int

/-- The calls of a leg, and what its frame is made of besides. -/
structure Payload.LegValues where
  calls : List Call.Values
  percent : Number
  srcToken : String
  destToken : String
  withdraw : Bool

/-- What both lists share with a third, member by member, they have in common. -/
theorem forall₂_of_shared {α β γ : Type} {R : α → γ → Prop} {S : β → γ → Prop} {T : α → β → Prop}
    (common : ∀ {a b c}, R a c → S b c → T a b) {as : List α} {bs : List β} {cs : List γ}
    (h : List.Forall₂ R as cs) (h' : List.Forall₂ S bs cs) : List.Forall₂ T as bs := by
  induction h generalizing bs with
  | nil =>
    obtain rfl := List.forall₂_nil_right_iff.mp h'
    exact .nil
  | cons first _ ih =>
    obtain ⟨b, bs, first', others, rfl⟩ := List.forall₂_cons_right_iff.mp h'
    exact .cons (common first first') (ih others)

namespace Call

namespace Values

/-- The call with the given values, if they fit. -/
def make (values : Values) : Except Fault Call :=
  Call.make values.target values.data values.fromAmountPos values.balanceCheckPos
    values.specialDex values.flag values.toAmountPos

/-- The call has the given values. -/
structure MadeInto (values : Values) (call : Call) : Prop where
  target : Address.decode values.target = .ok call.target
  data : values.data = call.data
  fromAmountPos : values.fromAmountPos = call.fromAmountPos.toNat
  balanceCheckPos : values.balanceCheckPos = call.balanceCheckPos.toNat
  toAmountPos : values.toAmountPos = call.toAmountPos.toNat
  specialDex : values.specialDex = call.specialDex.toNat
  flag : values.flag = call.flag.toNat

/-- All values are the same, but for the spelling of the target. -/
structure Same (values others : Values) : Prop where
  target : Address.decode values.target = Address.decode others.target
  others : { values with target := others.target } = others

theorem toNat_ofNat_position {value : Int} (fits : IsPosition value) :
    value = (UInt16.ofNat value.toNat).toNat := by
  obtain ⟨positive, small⟩ := fits
  rw [UInt16.toNat_ofNat_of_lt' small]
  omega

theorem madeInto_of_make {values : Values} {call : Call} (h : values.make = .ok call) :
    values.MadeInto call ∧ call.Fits := by
  obtain ⟨⟨length, size, inserted, balance, output, ⟨positive, small⟩, flag⟩, rfl⟩ :=
    make_eq_ok.mp h
  have special : values.specialDex = (UInt8.ofNat values.specialDex.toNat).toNat := by
    rw [UInt8.toNat_ofNat_of_lt' small]
    omega
  exact ⟨⟨Address.decode_of_length length, rfl, toNat_ofNat_position inserted,
    toNat_ofNat_position balance, toNat_ofNat_position output, special,
    toNat_ofNat_position flag⟩, length, size⟩

theorem madeInto_of_mapM {values : List Values} {calls : List Call}
    (h : values.mapM make = .ok calls) :
    List.Forall₂ MadeInto values calls ∧ ∀ call ∈ calls, call.Fits := by
  rw [Outcome.mapM_eq_ok] at h
  induction h with
  | nil => exact ⟨.nil, List.forall_mem_nil _⟩
  | cons first _ ih =>
    obtain ⟨made, fits⟩ := madeInto_of_make first
    exact ⟨.cons made ih.1, List.forall_mem_cons.mpr ⟨fits, ih.2⟩⟩

theorem length_encodeAll {values : List Values} {calls : List Call}
    (h : List.Forall₂ MadeInto values calls) (fits : ∀ call ∈ calls, call.Fits) :
    (encodeAll calls).length = (values.map fun values => 33 + values.data.length).sum := by
  induction h with
  | nil => rfl
  | cons first _ ih =>
    obtain ⟨fitsFirst, fitOthers⟩ := List.forall_mem_cons.mp fits
    rw [encodeAll] at ih ⊢
    rw [List.flatMap_cons, List.length_append, length_encode fitsFirst, ← first.data,
      ih fitOthers, List.map_cons, List.sum_cons]

/-- Values that make the same call are the same. -/
theorem MadeInto.same {values others : Values} {call : Call} (h : values.MadeInto call)
    (h' : others.MadeInto call) : values.Same others := by
  refine ⟨h.target.trans h'.target.symm, ?_⟩
  cases others
  simp only [h.data, h.fromAmountPos, h.balanceCheckPos, h.toAmountPos, h.specialDex, h.flag,
    ← h'.data, ← h'.fromAmountPos, ← h'.balanceCheckPos, ← h'.toAmountPos, ← h'.specialDex,
    ← h'.flag]

end Values

end Call

/-! ## Frames of any calls -/

namespace Payload

/-- What is framed is the frame of the calls, at the places where the tokens occur. -/
theorem exists_frame_of_legFrame {calls : List Call} {percent : Number}
    {srcToken destToken : String} {withdraw : Bool} {bytes : Bytes}
    (h : legFrame (Call.encodeAll calls) percent srcToken destToken withdraw = .ok bytes)
    (fits : ∀ call ∈ calls, call.Fits) :
    ∃ frame : LegFrame, frame.Fits ∧ frame.encode = bytes ∧ frame.calls = calls ∧
      frame.withdraw = (if withdraw then 1 else 0) ∧
      Percentage.encode percent = .ok frame.hundredths ∧
      Bytes.firstIndex? (Address.bytesOf srcToken) frame.body = some frame.srcTokenPos ∧
      Bytes.firstIndex? (Address.bytesOf destToken) frame.body = some frame.destTokenPos := by
  simp only [legFrame, Patch.findAddress, Outcome.bind_eq_ok, Patch.find_eq_ok] at h
  obtain ⟨src, ⟨srcBytes, readSrc, foundSrc⟩, dest, ⟨destBytes, readDest, foundDest⟩,
    hundredths, share, packed⟩ := h
  rw [← Address.bytesOf_eq readSrc] at foundSrc
  rw [← Address.bytesOf_eq readDest] at foundDest
  -- the header refuses negative shares
  have positive : 0 ≤ hundredths :=
    ((Header.pack_eq_ok.mp packed).1.1 ⟨"percentage", hundredths, 8⟩ (by simp)).1
  obtain ⟨hundredths, rfl⟩ := Int.eq_ofNat_of_zero_le positive
  let frame : LegFrame := ⟨if withdraw then 1 else 0, dest, src, hundredths, calls⟩
  have fields : Header.pack frame.fields frame.body = .ok bytes := by
    rw [← packed]
    cases withdraw <;> rfl
  obtain ⟨frameFits, written⟩ := (frame.pack_follows fits).sound bytes fields
  exact ⟨frame, frameFits, written, rfl, rfl, share, foundSrc, foundDest⟩

namespace LegValues

/-- The frame of a leg around the calls with the given values. -/
def frame (leg : LegValues) : Except Fault Bytes := do
  let calls ← leg.calls.mapM Call.Values.make
  legFrame (Call.encodeAll calls) leg.percent leg.srcToken leg.destToken leg.withdraw

/-- The bytes of a leg: a header and, for every call, a header and its data. -/
def size (leg : LegValues) : Nat :=
  32 + (leg.calls.map fun values => 33 + values.data.length).sum

/-- The frame holds the given calls and the other values of the leg, and the first places at
which its tokens occur in the calls. -/
structure FramedAs (leg : LegValues) (frame : LegFrame) : Prop where
  calls : List.Forall₂ Call.Values.MadeInto leg.calls frame.calls
  withdraw : frame.withdraw = if leg.withdraw then 1 else 0
  hundredths : Percentage.encode leg.percent = .ok frame.hundredths
  srcToken : Bytes.firstIndex? (Address.bytesOf leg.srcToken) (Call.encodeAll frame.calls) =
    some frame.srcTokenPos
  destToken : Bytes.firstIndex? (Address.bytesOf leg.destToken) (Call.encodeAll frame.calls) =
    some frame.destTokenPos

/-- The legs have the same calls, and their frames say the same of them. -/
structure Same (leg other : LegValues) : Prop where
  calls : List.Forall₂ Call.Values.Same leg.calls other.calls
  withdraw : leg.withdraw = other.withdraw
  hundredths : Percentage.encode leg.percent = Percentage.encode other.percent

theorem framedAs_of_frame {leg : LegValues} {bytes : Bytes} (h : leg.frame = .ok bytes) :
    ∃ frame : LegFrame, leg.FramedAs frame ∧ frame.Fits ∧ frame.encode = bytes := by
  obtain ⟨calls, made, framed⟩ := Outcome.bind_eq_ok.mp h
  obtain ⟨values, fits⟩ := Call.Values.madeInto_of_mapM made
  obtain ⟨frame, frameFits, written, rfl, withdraw, share, src, dest⟩ :=
    exists_frame_of_legFrame framed fits
  exact ⟨frame, ⟨values, withdraw, share, src, dest⟩, frameFits, written⟩

theorem framedAs_of_mapM {legs : List LegValues} {frames : List Bytes}
    (h : legs.mapM frame = .ok frames) :
    ∃ parts : List LegFrame, List.Forall₂ FramedAs legs parts ∧ (∀ part ∈ parts, part.Fits) ∧
      frames.flatten = parts.flatMap LegFrame.encode := by
  rw [Outcome.mapM_eq_ok] at h
  induction h with
  | nil => exact ⟨[], .nil, List.forall_mem_nil _, rfl⟩
  | cons first _ ih =>
    obtain ⟨part, framed, fits, rfl⟩ := framedAs_of_frame first
    obtain ⟨parts, others, othersFit, written⟩ := ih
    refine ⟨part :: parts, .cons framed others, List.forall_mem_cons.mpr ⟨fits, othersFit⟩, ?_⟩
    rw [List.flatten_cons, List.flatMap_cons, written]

/-- Legs with the same frame are the same, as far as it tells. -/
theorem FramedAs.same {leg other : LegValues} {frame : LegFrame} (h : leg.FramedAs frame)
    (h' : other.FramedAs frame) : leg.Same other where
  calls := forall₂_of_shared (fun made made' => made.same made') h.calls h'.calls
  withdraw := by
    have same := h.withdraw.symm.trans h'.withdraw
    cases given : leg.withdraw <;> cases given' : other.withdraw <;> simp [given, given'] at same ⊢
  hundredths := h.hundredths.trans h'.hundredths.symm

theorem FramedAs.length_encode {leg : LegValues} {frame : LegFrame} (h : leg.FramedAs frame)
    (fits : frame.Fits) : frame.encode.length = leg.size := by
  rw [LegFrame.length_encode, LegFrame.body, Call.Values.length_encodeAll h.calls fits.calls, size]

theorem length_flatMap_encode {legs : List LegValues} {parts : List LegFrame}
    (h : List.Forall₂ FramedAs legs parts) (fits : ∀ part ∈ parts, part.Fits) :
    (parts.flatMap LegFrame.encode).length = (legs.map size).sum := by
  induction h with
  | nil => rfl
  | cons first _ ih =>
    obtain ⟨fitsFirst, fitOthers⟩ := List.forall_mem_cons.mp fits
    rw [List.flatMap_cons, List.length_append, first.length_encode fitsFirst, ih fitOthers,
      List.map_cons, List.sum_cons]

end LegValues

/-! ## Payloads of any calls -/

theorem read?_of_parts {frames : List Bytes} {parts : List LegFrame} {payload : Bytes}
    (fits : ∀ part ∈ parts, part.Fits) (written : frames.flatten = parts.flatMap LegFrame.encode)
    (framed : frame frames.flatten = .ok payload) :
    read? payload = some ⟨dataOffset, frames.flatten.length + callerBytes, parts⟩ ∧
      payload.length = 64 + frames.flatten.length := by
  rw [written] at framed ⊢
  obtain ⟨length, rfl⟩ := (frame_follows parts).sound payload framed
  exact ⟨read?_encode fits length, length_encode parts⟩

/-- Frames of legs are framed exactly if their length fits its word. What is framed is read
back as the legs with their calls, to the last byte, and there are no other legs that it could
be the payload of. -/
theorem framing_lossless {legs : List LegValues} {frames : List Bytes}
    (made : legs.mapM LegValues.frame = .ok frames) :
    ((∃ payload, frame frames.flatten = .ok payload) ↔ frames.flatten.length + 96 < 2 ^ 256) ∧
      ∀ payload, frame frames.flatten = .ok payload →
        (∃ parts, read? payload = some ⟨32, frames.flatten.length + 96, parts⟩ ∧
          List.Forall₂ LegValues.FramedAs legs parts) ∧
        payload.length = 64 + (legs.map LegValues.size).sum ∧
        ∀ others otherFrames, others.mapM LegValues.frame = .ok otherFrames →
          frame otherFrames.flatten = .ok payload → List.Forall₂ LegValues.Same legs others := by
  obtain ⟨parts, framed, fits, written⟩ := LegValues.framedAs_of_mapM made
  have follows := frame_follows parts
  rw [← written] at follows
  constructor
  · constructor
    · rintro ⟨payload, h⟩
      exact (follows.sound payload h).1
    · intro length
      exact ⟨_, follows.complete trivial length⟩
  · intro payload h
    obtain ⟨read, length⟩ := read?_of_parts fits written h
    refine ⟨⟨parts, read, framed⟩, ?_, ?_⟩
    · rw [length, written, LegValues.length_flatMap_encode framed fits]
    · intro others otherFrames otherMade h'
      obtain ⟨otherParts, otherFramed, otherFits, otherWritten⟩ :=
        LegValues.framedAs_of_mapM otherMade
      -- both are read back from the same bytes, so their parts are the same
      have otherRead := (read?_of_parts otherFits otherWritten h').1
      rw [read, Option.some.injEq, Contents.mk.injEq] at otherRead
      obtain ⟨-, -, rfl⟩ := otherRead
      exact forall₂_of_shared (fun framed framed' => framed.same framed') framed otherFramed

/-- A call whose data has the form of a call itself. -/
def LegValues.nested : LegValues where
  calls := [
    ⟨Network.wrappedNativeToken, [0xd0, 0xe3, 0x0d, 0xb0], 0, 0, 0, 0, 9⟩,
    ⟨Network.leftoverReceiver,
      Call.encode ⟨List.replicate 20 0xee, 1, 2, 3, 4, 5, [0xff]⟩, 4, 8, 36, 2, 11⟩]
  percent := .int 60
  srcToken := Network.wrappedNativeToken
  destToken := Network.nativePlaceholder
  withdraw := true

/-- A call without data, whose target is both tokens. -/
def LegValues.bare : LegValues where
  calls := [⟨Network.nativePlaceholder, [], 0, 0, 0, 2, 0⟩]
  percent := .int 40
  srcToken := Network.nativePlaceholder
  destToken := Network.nativePlaceholder
  withdraw := false

theorem framing_lossless_of_nested_calls :
    ∃ frames payload, [LegValues.nested, LegValues.bare].mapM LegValues.frame = .ok frames ∧
      frame frames.flatten = .ok payload ∧
      (∃ parts, read? payload = some ⟨32, frames.flatten.length + 96, parts⟩ ∧
        List.Forall₂ LegValues.FramedAs [.nested, .bare] parts) ∧
      payload.length = 64 + (32 + ((33 + 4) + (33 + 34)) + (32 + 33)) ∧
      ∀ others otherFrames, others.mapM LegValues.frame = .ok otherFrames →
        frame otherFrames.flatten = .ok payload →
          List.Forall₂ LegValues.Same [.nested, .bare] others := by
  have made : ([LegValues.nested, LegValues.bare].mapM LegValues.frame >>= fun frames =>
      frame frames.flatten).isOk = true := by
    decide +kernel
  obtain ⟨payload, made⟩ := Outcome.exists_of_isOk made
  obtain ⟨frames, made, framed⟩ := Outcome.bind_eq_ok.mp made
  exact ⟨frames, payload, made, framed, (framing_lossless made).2 payload framed⟩

end Payload

end SwapCompiler
