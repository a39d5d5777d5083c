import SwapCompiler.Call
import SwapCompiler.Payload

/-!
# Reading a payload back

A payload is taken apart by its layout alone, without the route it was compiled from: two
words, then leg frames of 32 bytes and the size they give, then calls of 33 bytes and the
size they give. Every byte has to belong to some part. The readers of sequences recurse on
a step budget; it is set to the number of bytes, which is enough, as every part has some.
-/

namespace SwapCompiler

/-- The first bytes and those behind them, if there are that many. -/
def Bytes.split? (count : Nat) (bytes : Bytes) : Option (Bytes × Bytes) :=
  if count ≤ bytes.length then some (bytes.take count, bytes.drop count) else none

namespace Call

/-- Reads a call, and gives it with the bytes behind it. -/
def read? (bytes : Bytes) : Option (Call × Bytes) := do
  let (target, rest) ← bytes.split? 20
  match ← Header.unpack? [4, 2, 2, 2, 1, 2] rest with
  | ([size, fromAmountPos, balanceCheckPos, toAmountPos, specialDex, flag], rest) =>
    let (data, rest) ← rest.split? size
    return (⟨target, .ofNat fromAmountPos, .ofNat balanceCheckPos, .ofNat toAmountPos,
      .ofNat specialDex, .ofNat flag, data⟩, rest)
  | _ => none

/-- Reads calls within a step budget. -/
def readWithin? : (budget : Nat) → Bytes → Option (List Call)
  | _, [] => some []
  | 0, _ :: _ => none
  | budget + 1, bytes => do
    let (call, rest) ← read? bytes
    let calls ← readWithin? budget rest
    return call :: calls

/-- Reads the calls that the bytes consist of. -/
def readAll? (bytes : Bytes) : Option (List Call) :=
  readWithin? bytes.length bytes

end Call

namespace Payload

/-- What the frame of a leg says, and the calls in it. -/
structure LegFrame where
  withdraw : Nat
  destTokenPos : Nat
  srcTokenPos : Nat
  hundredths : Nat
  calls : List Call
  deriving DecidableEq, Repr

namespace LegFrame

/-- Reads the frame of a leg, and gives it with the bytes behind it. -/
def read? (bytes : Bytes) : Option (LegFrame × Bytes) := do
  match ← Header.unpack? [4, 4, 8, 8, 8] bytes with
  | ([size, withdraw, destTokenPos, srcTokenPos, hundredths], rest) =>
    let (body, rest) ← rest.split? size
    let calls ← Call.readAll? body
    return (⟨withdraw, destTokenPos, srcTokenPos, hundredths, calls⟩, rest)
  | _ => none

/-- Reads leg frames within a step budget. -/
def readWithin? : (budget : Nat) → Bytes → Option (List LegFrame)
  | _, [] => some []
  | 0, _ :: _ => none
  | budget + 1, bytes => do
    let (frame, rest) ← read? bytes
    let frames ← readWithin? budget rest
    return frame :: frames

/-- Reads the leg frames that the bytes consist of. -/
def readAll? (bytes : Bytes) : Option (List LegFrame) :=
  readWithin? bytes.length bytes

end LegFrame

/-- What a payload holds. -/
structure Contents where
  dataOffset : Nat
  claimedLength : Nat
  frames : List LegFrame
  deriving DecidableEq, Repr

/-- Reads a payload. -/
def read? (payload : Bytes) : Option Contents := do
  match ← Header.unpack? [32, 32] payload with
  | ([dataOffset, claimedLength], body) =>
    let frames ← LegFrame.readAll? body
    return ⟨dataOffset, claimedLength, frames⟩
  | _ => none

end Payload

end SwapCompiler
