import SwapCompiler.Fault

/-!
# Fixed-width headers

A header is a row of named unsigned fields, each written big-endian in its own number of
bytes, in front of a payload. A value that does not fit its field is refused by name, the
first such field winning; only then are widths looked at that no field can have.
-/

namespace SwapCompiler.Header

/-- A header field: a value to be written in `width` bytes. -/
structure Field where
  name : String
  value : Int
  width : Int

/-- The value as an unsigned number, if it fits a field of `width` bytes. -/
def fit (value width : Int) (field : String) : Except Fault Nat :=
  if value < 0 then .error (Refusal.headerOverflow field value width)
  else if width < 0 then .error .negativeWidth
  else if Bytes.fits width.toNat value.toNat then .ok value.toNat
  else .error (Refusal.headerOverflow field value width)

/-- The width as a number of bytes, if a field can have it. -/
def checkWidth (width : Int) : Except Fault Unit :=
  if width ≤ 0 then .error .emptyField
  else if 32 < width then .error .fieldTooWide
  else .ok ()

/-- The first value that does not fit, if any. -/
def checkValues : List Field → Except Fault Unit
  | [] => .ok ()
  | field :: rest =>
    match fit field.value field.width field.name with
    | .ok _ => checkValues rest
    | .error fault => .error fault

/-- The first width that no field can have, if any. -/
def checkWidths : List Field → Except Fault Unit
  | [] => .ok ()
  | field :: rest =>
    match checkWidth field.width with
    | .ok _ => checkWidths rest
    | .error fault => .error fault

/-- The fields one after another. -/
def encode (fields : List Field) : Bytes :=
  fields.flatMap fun field => Bytes.ofNat field.width.toNat field.value.toNat

/-- The header and the payload behind it. -/
def pack (fields : List Field) (payload : Bytes) : Except Fault Bytes := do
  checkValues fields
  checkWidths fields
  return encode fields ++ payload

/-- Reads fields of the given widths, and gives them with the bytes behind them. -/
def unpack? : (widths : List Nat) → Bytes → Option (List Nat × Bytes)
  | [], bytes => some ([], bytes)
  | width :: rest, bytes =>
    if bytes.length < width then none
    else (unpack? rest (bytes.drop width)).map fun (values, behind) =>
      (Bytes.toNat (bytes.take width) :: values, behind)

end SwapCompiler.Header
