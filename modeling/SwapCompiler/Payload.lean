import SwapCompiler.Header
import SwapCompiler.Patch
import SwapCompiler.Percentage

/-!
# Frames of legs and of the payload

The calls of a leg stand behind a header of 32 bytes:

    [4 size][4 withdraw][8 destination position][8 source position][8 hundredths][calls]

The positions are those of the leg's tokens in its finished calls. The frames of all legs
stand behind two words, the offset of the data and its length; the length counts 96 bytes
that the caller puts in front.
-/

namespace SwapCompiler.Payload

/-- The offset of the data behind the first word. -/
def dataOffset : Nat := 32

/-- The bytes that the caller puts in front of the leg frames. -/
def callerBytes : Nat := 96

/-- The frame of one leg around its calls. -/
def legFrame (calls : Bytes) (percent : Number) (srcToken destToken : String)
    (withdraw : Bool) : Except Fault Bytes := do
  let srcTokenPos ← Patch.findAddress calls srcToken "source token"
  let destTokenPos ← Patch.findAddress calls destToken "destination token"
  let hundredths ← Percentage.encode percent
  Header.pack
    [⟨"size", calls.length, 4⟩,
      ⟨"withdraw_flag", if withdraw then 1 else 0, 4⟩,
      ⟨"dest_token_pos", destTokenPos, 8⟩,
      ⟨"src_token_pos", srcTokenPos, 8⟩,
      ⟨"percentage", hundredths, 8⟩]
    calls

/-- The frame of the payload around the leg frames. -/
def frame (body : Bytes) : Except Fault Bytes :=
  Header.pack
    [⟨"calldata_offset", dataOffset, 32⟩, ⟨"calldata_length", body.length + callerBytes, 32⟩]
    body

end SwapCompiler.Payload
