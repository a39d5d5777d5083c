import SwapCompiler.Address

/-!
# Contract-call encoding

Arguments of a contract call are 32-byte words behind a four-byte selector. A number is
written big-endian; an address has twelve zero bytes in front. Two token calls are needed:
`approve(address,uint256)` and `transfer(address,uint256)`.
-/

namespace SwapCompiler.Abi

/-- The largest unsigned 256-bit number; as an allowance it stands for no limit. -/
def maxWord : Nat := Bytes.capacity 32 - 1

/-- The zero bytes in front of an address in its word. -/
def addressPadding : Nat := 12

/-- The selector of `approve(address,uint256)`. -/
def approveSelector : Bytes := [0x09, 0x5e, 0xa7, 0xb3]

/-- The selector of `transfer(address,uint256)`. -/
def transferSelector : Bytes := [0xa9, 0x05, 0x9c, 0xbb]

/-- A number as a word, if it is in range. -/
def word (value : Int) : Except Fault Bytes :=
  if 0 ≤ value ∧ value.toNat ≤ maxWord then .ok (Bytes.ofNat 32 value.toNat)
  else .error .wordOverflow

/-- The bytes of an address as a word, if there are twenty of them. -/
def addressWord (address : Bytes) : Except Fault Bytes :=
  if address.length = 20 then .ok (Bytes.zeros addressPadding ++ address)
  else .error .addressLength

/-- A call with an address and an amount as its arguments. -/
def tokenCall (selector : Bytes) (account : String) (amount : Int) : Except Fault Bytes := do
  let address ← Address.decode account
  let accountWord ← addressWord address
  let amountWord ← word amount
  return selector ++ accountWord ++ amountWord

/-- The call `approve(spender, amount)`. -/
def approve (spender : String) (amount : Int) : Except Fault Bytes :=
  tokenCall approveSelector spender amount

/-- The call `transfer(recipient, amount)`. -/
def transfer (recipient : String) (amount : Int) : Except Fault Bytes :=
  tokenCall transferSelector recipient amount

end SwapCompiler.Abi
