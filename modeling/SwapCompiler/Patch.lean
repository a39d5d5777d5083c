import SwapCompiler.Abi
import SwapCompiler.Bytes.Search
import SwapCompiler.Flag

/-!
# Patch points inside call data

The executor patches amounts into call data, and reads the token whose balance it checks
out of it, at byte offsets that the payload gives. The offsets are found by searching the
call data for the bytes of a token or for the word of an amount. The first occurrence
wins; whether it is the intended one is not examined.
-/

namespace SwapCompiler.Patch

/-- The offset of the first occurrence of a pattern. -/
def find (data pattern : Bytes) (label : String) : Except Fault Nat :=
  match Bytes.firstIndex? pattern data with
  | some index => .ok index
  | none => .error (Refusal.patternNotFound label pattern)

/-- The offset of the first occurrence of an address. -/
def findAddress (data : Bytes) (address label : String) : Except Fault Nat := do
  find data (← Address.decode address) label

/-- The call data with a token's word behind it, unless the token occurs in it already. -/
def embedToken (data : Bytes) (token : String) : Except Fault Bytes := do
  let address ← Address.decode token
  return if data.contains address then data
    else data ++ Bytes.zeros Abi.addressPadding ++ address

/-- The start of the 32-byte word that ends with the token's first occurrence. -/
def balanceOffset (data : Bytes) (token : String) : Except Fault Nat := do
  let index ← findAddress data token "balance check token"
  if index < Abi.addressPadding then .error (Refusal.outsideWord index)
  else .ok (index - Abi.addressPadding)

/-- The patch points of a dex call; zero where the flag asks for none. -/
structure Points where
  fromAmount : Nat
  toAmount : Nat
  balanceCheck : Nat
  deriving DecidableEq, Repr

/-- The patch points that a flag asks for: the word of the checked token, and the words of
the two amounts. -/
def resolve (data : Bytes) (flag : Int) (balanceToken : String) (srcAmount destAmount : Int) :
    Except Fault Points := do
  let balanceCheck ←
    if Flag.balanceCheck flag = .destToken then balanceOffset data balanceToken else pure 0
  if Flag.insertsAmount flag then
    let fromAmount ← find data (← Abi.word srcAmount) "source amount"
    let toAmount ← find data (← Abi.word destAmount) "destination amount"
    return ⟨fromAmount, toAmount, balanceCheck⟩
  else return ⟨0, 0, balanceCheck⟩

end SwapCompiler.Patch
