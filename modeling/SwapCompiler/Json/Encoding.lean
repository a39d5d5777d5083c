import SwapCompiler.Bytes
import SwapCompiler.Text.CodePoint

/-!
# Encodings of JSON

The bytes of a JSON text are UTF-8, UTF-16 or UTF-32. The text starts with two characters
of ASCII, or is one, so the zeros among the first four bytes tell which of them it is. The
bytes are given as the text that they spell in UTF-8. Surrogates without a partner are
kept, and a byte order mark is skipped in UTF-8 only.
-/

namespace SwapCompiler.Json

/-- Which byte of a unit comes first. -/
inductive Encoding.Order
  | bigEndian
  | littleEndian
  deriving DecidableEq, Repr

/-- An encoding of JSON texts. -/
inductive Encoding
  | utf8
  | utf16 (order : Encoding.Order)
  | utf32 (order : Encoding.Order)
  deriving DecidableEq, Repr

namespace Encoding

open Text

/-- The encoding that the first bytes show. Fewer than four bytes show it only if there are
two. -/
def detect : Bytes → Encoding
  | 0 :: 0 :: _ :: _ :: _ => .utf32 .bigEndian
  | 0 :: _ :: _ :: _ :: _ => .utf16 .bigEndian
  | _ :: 0 :: 0 :: 0 :: _ => .utf32 .littleEndian
  | _ :: 0 :: _ :: _ :: _ => .utf16 .littleEndian
  | [0, _] => .utf16 .bigEndian
  | [_, 0] => .utf16 .littleEndian
  | _ => .utf8

/-- The number that bytes stand for in the given order. -/
def Order.value (order : Order) (bytes : Bytes) : Nat :=
  match order with
  | .bigEndian => Bytes.toNat bytes
  | .littleEndian => Bytes.toNat bytes.reverse

/-- The units of 16 bits, unless a byte is left over; `read` holds earlier ones in
reverse. -/
def units? (order : Order) (read : List UInt16) : Bytes → Option (List UInt16)
  | [] => some read.reverse
  | [_] => none
  | a :: b :: rest => units? order (.ofNat (order.value [a, b]) :: read) rest

/-- The code points of 32 bits each, unless bytes are left over or stand for none; `read`
holds earlier ones in reverse. -/
def points? (order : Order) (read : List CodePoint) : Bytes → Option (List CodePoint)
  | [] => some read.reverse
  | a :: b :: c :: d :: rest =>
    match CodePoint.ofNat? (order.value [a, b, c, d]) with
    | some point => points? order (point :: read) rest
    | none => none
  | _ => none

/-- The characters without the byte order mark at their start. -/
def withoutMark : List Char → List Char
  | '\uFEFF' :: rest => rest
  | text => text

/-- The code points of a JSON text, if its bytes, which spell `text` in UTF-8, can be
decoded. -/
def decode? (text : String) : Option (List CodePoint) :=
  let bytes : Bytes := text.toUTF8.data.toList
  match detect bytes with
  | .utf8 => some ((withoutMark text.toList).map .char)
  | .utf16 order => (units? order [] bytes).map CodePoint.ofUnits
  | .utf32 order => points? order [] bytes

end Encoding

end SwapCompiler.Json
