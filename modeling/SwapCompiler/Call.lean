import SwapCompiler.CallTemplate
import SwapCompiler.Header
import SwapCompiler.Patch

/-!
# Executor calls

A call of the executor is a header of 33 bytes and call data:

    [20 target][4 size][2 amount position][2 balance position][2 output position]
    [1 special mode][2 flag][call data]

`Call.make` checks every value in this order against its field; only a target that does
not have 20 bytes is noticed last. The calls that surround a dex call are made below.
-/

namespace SwapCompiler

/-- A call of the executor. -/
structure Call where
  target : Bytes
  fromAmountPos : UInt16
  balanceCheckPos : UInt16
  toAmountPos : UInt16
  specialDex : UInt8
  flag : UInt16
  data : Bytes
  deriving DecidableEq, Repr

namespace Call

/-- The call with the given values, if they fit. -/
def make (target : String) (data : Bytes) (fromAmountPos balanceCheckPos specialDex flag : Int)
    (toAmountPos : Int) : Except Fault Call := do
  let target ← Address.decode target
  let _ ← Header.fit data.length 4 "calldata_size"
  let fromAmountPos ← Header.fit fromAmountPos 2 "from_amount_pos"
  let balanceCheckPos ← Header.fit balanceCheckPos 2 "balance_check_pos"
  let toAmountPos ← Header.fit toAmountPos 2 "to_amount_pos"
  let specialDex ← Header.fit specialDex 1 "special_dex"
  let flag ← Header.fit flag 2 "flag"
  if target.length = 20 then
    return ⟨target, .ofNat fromAmountPos, .ofNat balanceCheckPos, .ofNat toAmountPos,
      .ofNat specialDex, .ofNat flag, data⟩
  else .error .addressLength

/-- The call as bytes. -/
def encode (call : Call) : Bytes :=
  call.target ++ Bytes.ofNat 4 call.data.length ++ Bytes.ofNat 2 call.fromAmountPos.toNat ++
    Bytes.ofNat 2 call.balanceCheckPos.toNat ++ Bytes.ofNat 2 call.toAmountPos.toNat ++
    Bytes.ofNat 1 call.specialDex.toNat ++ Bytes.ofNat 2 call.flag.toNat ++ call.data

/-- The calls one after another. -/
def encodeAll (calls : List Call) : Bytes :=
  calls.flatMap encode

/-! ## The calls around a dex call -/

/-- The position of the amount in `transfer(address,uint256)`. -/
def transferAmountPos : Nat := 36

/-- The position of the amount in `withdraw(uint256)`. -/
def withdrawAmountPos : Nat := 4

/-- The address of no contract. -/
def zeroAddress : String := "0x0000000000000000000000000000000000000000"

/-- Approves `spender` on `token`. If the flag inserts the amount, the allowance word is
the patch point. -/
def approve (spender token : String) (amount flag : Int) : Except Fault Call := do
  let data ← Abi.approve spender amount
  let fromAmountPos ←
    if Flag.insertsAmount flag then Patch.find data (← Abi.word amount) "approve amount"
    else pure 0
  make token data fromAmountPos 0 SpecialDex.default.value.toNat flag 0

/-- Transfers what is left of `token` to the receiver. The amount is written as zero, and
the flag, 11, has the checked balance of the token inserted for it. -/
def transfer (receiver token : String) : Except Fault Call := do
  let data ← Abi.transfer receiver 0
  make token data transferAmountPos 0 SpecialDex.default.value.toNat 11 0

/-- Deposits native value into the wrapped token. The usual flag is 9, which sends the
value and checks no balance. -/
def wrap (deposit : WrapCall) (flag : Int) : Except Fault Call := do
  make deposit.callee.text (← deposit.data.bytes) 0 0 SpecialDex.default.value.toNat flag 0

/-- Withdraws the wrapped balance. The flag, 7, has the amount inserted and the native
balance checked. -/
def unwrap (withdraw : WrapCall) : Except Fault Call := do
  make withdraw.callee.text (← withdraw.data.bytes) withdrawAmountPos withdrawAmountPos
    SpecialDex.default.value.toNat 7 0

/-- Forwards the native balance to the caller. -/
def forwardNative : Except Fault Call :=
  make zeroAddress [] 0 0 SpecialDex.sendNative.value.toNat 0 0

end Call

end SwapCompiler
