import SwapCompiler.Bytes

/-!
# Hexadecimal text of byte strings

Bytes are written as lower-case digits behind `0x`. Reading is more generous: the mark
`0x` or `0X` may be missing, digits may have either case, and ASCII blanks may stand
between two bytes. What cannot be read is reported by its position, counted in
characters behind the mark. A character outside ASCII is reported before anything else.
-/

namespace SwapCompiler.Hex

/-- The value of a hexadecimal digit of either case. -/
def digit? (c : Char) : Option Nat :=
  if '0' ≤ c ∧ c ≤ '9' then some (c.toNat - '0'.toNat)
  else if 'a' ≤ c ∧ c ≤ 'f' then some (c.toNat - 'a'.toNat + 10)
  else if 'A' ≤ c ∧ c ≤ 'F' then some (c.toNat - 'A'.toNat + 10)
  else none

/-- The lower-case digit of a value below sixteen. -/
def digitOf (value : Nat) : Char :=
  if value < 10 then Char.ofNat ('0'.toNat + value) else Char.ofNat ('a'.toNat + (value - 10))

/-- The blanks of ASCII: space, and tab to carriage return. -/
def isAsciiBlank (c : Char) : Bool :=
  c = ' ' || ('\t' ≤ c && c ≤ '\r')

/-! ## Reading -/

/-- The first character outside ASCII, counting positions from `position`. -/
def firstWide? (position : Nat) : List Char → Option Nat
  | [] => none
  | c :: rest => if c.toNat < 128 then firstWide? (position + 1) rest else some position

/-- Reads pairs of digits, skipping blanks in front of a pair. The bytes read so far are
kept in reverse; the error is the position that should have held a digit. -/
def readPairs (position : Nat) (read : Bytes) : List Char → Except Nat Bytes
  | [] => .ok read.reverse
  | [c] =>
    if isAsciiBlank c then .ok read.reverse
    else if (digit? c).isSome then .error (position + 1)
    else .error position
  | c :: d :: rest =>
    if isAsciiBlank c then readPairs (position + 1) read (d :: rest)
    else match digit? c, digit? d with
      | none, _ => .error position
      | some _, none => .error (position + 1)
      | some high, some low =>
        readPairs (position + 2) (UInt8.ofNat (16 * high + low) :: read) rest

/-- Reads hexadecimal digits without a mark. -/
def readDigits (text : List Char) : Except Nat Bytes :=
  match firstWide? 0 text with
  | some position => .error position
  | none => readPairs 0 [] text

/-- The characters behind a leading `0x` or `0X`, or all of them. -/
def withoutMark : List Char → List Char
  | '0' :: 'x' :: rest => rest
  | '0' :: 'X' :: rest => rest
  | text => text

/-- Reads hexadecimal text with or without its mark. -/
def decode (text : String) : Except Nat Bytes :=
  readDigits (withoutMark text.toList)

/-! ## Writing -/

/-- The two digits of every byte. -/
def digits (bytes : Bytes) : List Char :=
  bytes.flatMap fun byte => [digitOf (byte.toNat / 16), digitOf (byte.toNat % 16)]

/-- The bytes as lower-case text behind `0x`. -/
def encode (bytes : Bytes) : String :=
  String.ofList ('0' :: 'x' :: digits bytes)

/-! ## The strict form -/

/-- Pairs of digits, and nothing else. -/
def isPairs : List Char → Bool
  | [] => true
  | [_] => false
  | c :: d :: rest => (digit? c).isSome && (digit? d).isSome && isPairs rest

/-- The form asked of byte strings in a request: `0x` and an even number of digits. -/
def isStrict (text : String) : Bool :=
  match text.toList with
  | '0' :: 'x' :: rest => isPairs rest
  | _ => false

end SwapCompiler.Hex
