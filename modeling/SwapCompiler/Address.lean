import SwapCompiler.Bytes
import SwapCompiler.Fault
import SwapCompiler.Hex
import SwapCompiler.Text.IntegerLiteral
import SwapCompiler.Text.LowerCase

/-!
# Addresses

An address in a request has a strict form, `0x` and forty hexadecimal digits, and keeps
the letter case it was given in: `Address` is a text of that form. Addresses of a network
configuration are free text. They are normalized to lower case behind `0x` and accepted
when they have 42 characters and read as a hexadecimal literal, which is a wider test;
`decode` gives the bytes of either sort.
-/

namespace SwapCompiler

/-- Whether the text is `0x` and forty hexadecimal digits of either case. -/
def isStrictAddress (text : String) : Bool :=
  match text.toList with
  | '0' :: 'x' :: digits => digits.length == 40 && digits.all fun c => (Hex.digit? c).isSome
  | _ => false

/-- An address of the strict form, spelled as given. -/
structure Address where
  text : String
  strict : isStrictAddress text = true
  deriving DecidableEq

namespace Address

/-- The form of an address, as a pattern. -/
def pattern : String := "^0x[a-fA-F0-9]\x7b40\x7d$"

/-- Whether the text is accepted as an address: `0x` in lower case, 42 characters in all,
and a hexadecimal literal. -/
def isValid (text : String) : Bool :=
  match text.toList with
  | '0' :: 'x' :: body => body.length == 40 && Text.isHexadecimalBody body
  | _ => false

/-- The text in lower case, with `0x` in front unless it is there. -/
def normalize (text : String) : String :=
  let lowered := Text.lower text
  match lowered.toList with
  | '0' :: 'x' :: _ => lowered
  | _ => "0x" ++ lowered

/-- The normalized text of an address, if it is one. -/
def check (text : String) : Except Fault String :=
  let normalized := normalize text
  if isValid normalized then .ok normalized else .error (.invalidAddress text)

/-- The text of a named constant, if it is an address as it stands. -/
def checkConstant (name text : String) : Except Fault String :=
  if isValid text then .ok text else .error (.invalidConstant name text)

/-- The bytes of an address. There are twenty of them, unless the text is one of those
that pass for a literal but hold blanks. -/
def decode (text : String) : Except Fault Bytes := do
  let normalized ← check text
  match Hex.readDigits (normalized.toList.drop 2) with
  | .ok bytes => .ok bytes
  | .error position => .error (.invalidHex position)

end Address

end SwapCompiler
