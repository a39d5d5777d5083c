import SwapCompiler.Address

/-!
# Call templates

A template is the opaque call of one leg, made elsewhere: a target, its call data, and
what the compiler has to know about it. Wrap calls deposit native value into the wrapped
token or withdraw it again. Call data is kept as the hexadecimal text it was given in.
-/

namespace SwapCompiler

/-- A byte string as hexadecimal text of the strict form, spelled as given. -/
structure HexData where
  text : String
  strict : Hex.isStrict text = true
  deriving DecidableEq

namespace HexData

/-- The form of a byte string, as a pattern. -/
def pattern : String := "^0x([a-fA-F0-9]\x7b2\x7d)*$"

/-- The bytes that are written. -/
def bytes (data : HexData) : Except Fault Bytes :=
  match Hex.decode data.text with
  | .ok bytes => .ok bytes
  | .error position => .error (.invalidHex position)

end HexData

/-- The call template of one leg. -/
structure CallTemplate where
  /-- The contract that is called. -/
  target : Address
  data : HexData
  /-- Whether the call delivers its output to a recipient of its own. -/
  hasRecipient : Bool
  /-- Whether the exchange trades only the wrapped native token. -/
  needsWrap : Bool
  /-- The special mode of the call, passed on unchanged. -/
  specialDex : UInt8
  deriving DecidableEq

/-- A call of the wrapped native token. -/
structure WrapCall where
  callee : Address
  data : HexData
  deriving DecidableEq

/-- The calls that convert between native and wrapped native value, if there are any. -/
structure WrapTemplates where
  deposit : Option WrapCall
  withdraw : Option WrapCall
  deriving DecidableEq

namespace WrapTemplates

/-- The deposit call, if one is given. -/
def deposit? (wraps : Option WrapTemplates) : Option WrapCall :=
  wraps.bind (·.deposit)

/-- The withdraw call, if one is given. -/
def withdraw? (wraps : Option WrapTemplates) : Option WrapCall :=
  wraps.bind (·.withdraw)

end WrapTemplates

end SwapCompiler
