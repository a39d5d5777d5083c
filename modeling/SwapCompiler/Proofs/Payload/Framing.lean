import SwapCompiler.Proofs.Bytes.Words

/-!
# Calls and leg frames read back

Calls, leg frames and payloads are nested: each has a header that gives the size of what
stands behind it. `Call.Fits` and `LegFrame.Fits` say that all values fit their header
fields; what fits is read back from its bytes, whatever stands behind (`Call.read?_encode`,
`LegFrame.read?_encode`), and so is a row of calls or frames, from exactly its bytes
(`Call.readAll?_encodeAll`, `LegFrame.readAll?_flatMap`).
-/

namespace SwapCompiler

/-! ## Rows of parts -/

/-- `within` reads parts one after another until no bytes are left. -/
structure ReadsRow {α : Type} (read? : Bytes → Option (α × Bytes))
    (within : Nat → Bytes → Option (List α)) : Prop where
  nil : ∀ budget, within budget [] = some []
  cons : ∀ budget bytes, bytes ≠ [] →
    within (budget + 1) bytes =
      (read? bytes).bind fun part => (within budget part.2).map (part.1 :: ·)

namespace ReadsRow

variable {α : Type} {read? : Bytes → Option (α × Bytes)}
  {within : Nat → Bytes → Option (List α)} {encode : α → Bytes}

/-- Parts that are read back one by one are read back in a row. -/
theorem flatMap_of_le (row : ReadsRow read? within) {parts : List α} {budget : Nat}
    (back : ∀ part ∈ parts, ∀ rest, read? (encode part ++ rest) = some (part, rest))
    (nonempty : ∀ part ∈ parts, encode part ≠ []) (enough : parts.length ≤ budget) :
    within budget (parts.flatMap encode) = some parts := by
  induction parts generalizing budget with
  | nil => exact row.nil budget
  | cons part rest ih =>
    obtain ⟨budget, rfl⟩ : ∃ smaller, budget = smaller + 1 :=
      ⟨budget - 1, by simp only [List.length_cons] at enough; omega⟩
    have more : encode part ++ rest.flatMap encode ≠ [] :=
      List.append_ne_nil_of_left_ne_nil (nonempty part List.mem_cons_self) _
    have others : within budget (rest.flatMap encode) = some rest := by
      apply ih
      · exact fun other h => back other (List.mem_cons_of_mem _ h)
      · exact fun other h => nonempty other (List.mem_cons_of_mem _ h)
      · simpa using enough
    rw [List.flatMap_cons, row.cons _ _ more, back part List.mem_cons_self, Option.bind_some,
      others]
    rfl

/-- The number of bytes is budget enough. -/
theorem flatMap (row : ReadsRow read? within) {parts : List α}
    (back : ∀ part ∈ parts, ∀ rest, read? (encode part ++ rest) = some (part, rest))
    (nonempty : ∀ part ∈ parts, encode part ≠ []) :
    within (parts.flatMap encode).length (parts.flatMap encode) = some parts := by
  -- every part has a byte, so there are no more parts than bytes
  refine row.flatMap_of_le back nonempty ?_
  clear back
  induction parts with
  | nil => exact Nat.le_refl _
  | cons part rest ih =>
    have some : 0 < (encode part).length :=
      List.length_pos_iff.mpr (nonempty part List.mem_cons_self)
    have others := ih fun other h => nonempty other (List.mem_cons_of_mem _ h)
    simp only [List.flatMap_cons, List.length_append, List.length_cons]
    omega

end ReadsRow

/-! ## Calls -/

namespace Call

/-- The values of a call fit its header. -/
structure Fits (call : Call) : Prop where
  target : call.target.length = 20
  data : call.data.length < Bytes.capacity 4

theorem toNat_lt_capacity_two (value : UInt16) : value.toNat < Bytes.capacity 2 :=
  value.toNat_lt

theorem toNat_lt_capacity_one (value : UInt8) : value.toNat < Bytes.capacity 1 :=
  value.toNat_lt

theorem length_encode {call : Call} (fits : call.Fits) :
    call.encode.length = 33 + call.data.length := by
  simp only [encode, List.length_append, Bytes.length_ofNat, fits.target]

theorem encode_ne_nil (call : Call) : call.encode ≠ [] := by
  intro h
  have size := congrArg List.length h
  simp only [encode, List.length_append, Bytes.length_ofNat, List.length_nil] at size
  omega

/-- A call is read back from its bytes. -/
theorem read?_encode {call : Call} (fits : call.Fits) (rest : Bytes) :
    read? (call.encode ++ rest) = some (call, rest) := by
  obtain ⟨target, fromAmountPos, balanceCheckPos, toAmountPos, specialDex, flag, data⟩ := call
  simp only [encode, List.append_assoc, read?]
  rw [Bytes.split?_append fits.target]
  simp only [Option.bind_eq_bind, Option.bind_some]
  rw [Header.unpack?_word fits.data, Header.unpack?_word (toNat_lt_capacity_two fromAmountPos),
    Header.unpack?_word (toNat_lt_capacity_two balanceCheckPos),
    Header.unpack?_word (toNat_lt_capacity_two toAmountPos),
    Header.unpack?_word (toNat_lt_capacity_one specialDex),
    Header.unpack?_word (toNat_lt_capacity_two flag)]
  simp only [Header.unpack?_nil, Option.map_some, Option.bind_some]
  rw [Bytes.split?_append rfl]
  simp

theorem readsRow : ReadsRow read? readWithin? where
  nil budget := by cases budget <;> rfl
  cons budget bytes nonempty := by
    rw [readWithin?]
    · cases read? bytes with
      | none => rfl
      | some part =>
        simp only [Option.bind_eq_bind, Option.bind_some]
        cases readWithin? budget part.2 <;> rfl
    · exact nonempty

/-- A row of calls is read back from its bytes. -/
theorem readAll?_encodeAll {calls : List Call} (fits : ∀ call ∈ calls, call.Fits) :
    readAll? (encodeAll calls) = some calls :=
  readsRow.flatMap (fun call h => read?_encode (fits call h)) fun call _ => encode_ne_nil call

end Call

/-! ## Leg frames -/

namespace Payload.LegFrame

/-- The calls of a frame as bytes. -/
def body (frame : LegFrame) : Bytes := Call.encodeAll frame.calls

/-- The header and the calls of a frame as bytes. -/
def encode (frame : LegFrame) : Bytes :=
  Bytes.ofNat 4 frame.body.length ++ Bytes.ofNat 4 frame.withdraw ++
    Bytes.ofNat 8 frame.destTokenPos ++ Bytes.ofNat 8 frame.srcTokenPos ++
    Bytes.ofNat 8 frame.hundredths ++ frame.body

/-- The values of a frame, and of the calls in it, fit their headers. -/
structure Fits (frame : LegFrame) : Prop where
  size : frame.body.length < Bytes.capacity 4
  withdraw : frame.withdraw < Bytes.capacity 4
  destTokenPos : frame.destTokenPos < Bytes.capacity 8
  srcTokenPos : frame.srcTokenPos < Bytes.capacity 8
  hundredths : frame.hundredths < Bytes.capacity 8
  calls : ∀ call ∈ frame.calls, call.Fits

@[simp] theorem length_encode (frame : LegFrame) :
    frame.encode.length = 32 + frame.body.length := by
  simp only [encode, List.length_append, Bytes.length_ofNat]

theorem encode_ne_nil (frame : LegFrame) : frame.encode ≠ [] := by
  intro h
  have size := congrArg List.length h
  rw [length_encode, List.length_nil] at size
  omega

/-- The header of a leg frame is read back from its bytes, with the calls behind it. -/
theorem unpack?_encode {frame : LegFrame} (fits : frame.Fits) :
    Header.unpack? [4, 4, 8, 8, 8] frame.encode =
      some ([frame.body.length, frame.withdraw, frame.destTokenPos, frame.srcTokenPos,
        frame.hundredths], frame.body) := by
  simp only [encode, List.append_assoc]
  rw [Header.unpack?_word fits.size, Header.unpack?_word fits.withdraw,
    Header.unpack?_word fits.destTokenPos, Header.unpack?_word fits.srcTokenPos,
    Header.unpack?_word fits.hundredths]
  rfl

/-- A leg frame is read back from its bytes. -/
theorem read?_encode {frame : LegFrame} (fits : frame.Fits) (rest : Bytes) :
    read? (frame.encode ++ rest) = some (frame, rest) := by
  simp only [encode, List.append_assoc, read?]
  rw [Header.unpack?_word fits.size, Header.unpack?_word fits.withdraw,
    Header.unpack?_word fits.destTokenPos, Header.unpack?_word fits.srcTokenPos,
    Header.unpack?_word fits.hundredths]
  simp only [Header.unpack?_nil, Option.map_some, Option.bind_eq_bind, Option.bind_some]
  rw [Bytes.split?_append rfl]
  simp only [Option.bind_some]
  rw [body, Call.readAll?_encodeAll fits.calls]
  rfl

theorem readsRow : ReadsRow read? readWithin? where
  nil budget := by cases budget <;> rfl
  cons budget bytes nonempty := by
    rw [readWithin?]
    · cases read? bytes with
      | none => rfl
      | some part =>
        simp only [Option.bind_eq_bind, Option.bind_some]
        cases readWithin? budget part.2 <;> rfl
    · exact nonempty

/-- A row of leg frames is read back from its bytes. -/
theorem readAll?_flatMap {frames : List LegFrame} (fits : ∀ frame ∈ frames, frame.Fits) :
    readAll? (frames.flatMap encode) = some frames :=
  readsRow.flatMap (fun frame h => read?_encode (fits frame h)) fun frame _ => encode_ne_nil frame

end Payload.LegFrame

/-! ## Payloads -/

namespace Payload

/-- The payload of leg frames as bytes. -/
def encode (frames : List LegFrame) : Bytes :=
  Bytes.ofNat 32 dataOffset ++
    Bytes.ofNat 32 ((frames.flatMap LegFrame.encode).length + callerBytes) ++
    frames.flatMap LegFrame.encode

@[simp] theorem length_encode (frames : List LegFrame) :
    (encode frames).length = 64 + (frames.flatMap LegFrame.encode).length := by
  simp only [encode, List.length_append, Bytes.length_ofNat]

theorem drop_encode (frames : List LegFrame) :
    (encode frames).drop 64 = frames.flatMap LegFrame.encode :=
  List.drop_left' (by simp only [List.length_append, Bytes.length_ofNat])

/-- The contents of a payload are read back from its bytes. -/
theorem read?_encode {frames : List LegFrame} (fits : ∀ frame ∈ frames, frame.Fits)
    (length : (frames.flatMap LegFrame.encode).length + callerBytes < Bytes.capacity 32) :
    read? (encode frames) =
      some ⟨dataOffset, (frames.flatMap LegFrame.encode).length + callerBytes, frames⟩ := by
  have offset : dataOffset < Bytes.capacity 32 := by decide
  simp only [encode, List.append_assoc, read?]
  rw [Header.unpack?_word offset, Header.unpack?_word length]
  simp only [Header.unpack?_nil, Option.map_some, Option.bind_eq_bind, Option.bind_some]
  rw [LegFrame.readAll?_flatMap fits]
  rfl

end Payload

end SwapCompiler
