import SwapCompiler.Hex

/-!
# What a message is directed to

A client names what it asks for by a reference: a path, with a scheme and an authority in
front of it if need be, and a query and a fragment behind it. A reference that does not
name a host itself is taken from the root of the service, and leading slashes of its path
count as one. The steps `.` and `..` of a path are taken before it is decoded; they have
to be written out. Decoding happens twice, once by the client and once by the service.
-/

namespace SwapCompiler.Service

/-- A reference without its query and its fragment. -/
structure Target where
  /-- The scheme, empty if there is none. -/
  scheme : List Char
  /-- The authority, empty if there is none. -/
  authority : List Char
  path : List Char
  deriving DecidableEq, Repr

namespace Target

/-- Why a text is no reference. -/
inductive Flaw
  | tooLong
  | controlCharacter (c : Char) (position : Nat)
  /-- Two slashes start a path that nothing stands in front of. -/
  | leadingSlashes
  /-- A colon starts a path that nothing stands in front of. -/
  | leadingColon
  deriving DecidableEq, Repr

/-- The most characters of a reference. -/
def maxLength : Nat := 65536

/-- Whether the character is a control character of ASCII. -/
def isControl (c : Char) : Bool :=
  c.toNat < 32 || c.toNat = 127

/-! ## Taking a reference apart -/

/-- Whether the character can stand in a scheme. -/
def isSchemeCharacter (c : Char) : Bool :=
  c.isAlphanum || c = '+' || c = '.' || c = '-'

/-- Splits a scheme from a reference. A colon at the start is dropped. -/
def splitScheme (text : List Char) : List Char × List Char :=
  let scheme := text.takeWhile isSchemeCharacter
  match text.drop scheme.length with
  | ':' :: rest => if scheme.head?.all Char.isAlpha then (scheme, rest) else ([], text)
  | _ => ([], text)

/-- Splits an authority from a reference without scheme, query and fragment. -/
def splitAuthority : List Char → List Char × List Char
  | '/' :: '/' :: rest => (rest.takeWhile (· ≠ '/'), rest.dropWhile (· ≠ '/'))
  | text => ([], text)

/-- The reference that a text is. -/
def ofText (text : String) : Except Flaw Target :=
  let text := text.toList
  if maxLength < text.length then .error .tooLong
  else match text.find? isControl with
    | some c => .error (.controlCharacter c (text.takeWhile (!isControl ·)).length)
    | none =>
      let (scheme, rest) := splitScheme (text.takeWhile fun c => c ≠ '?' && c ≠ '#')
      let (authority, path) := splitAuthority rest
      if scheme.isEmpty && authority.isEmpty && ['/', '/'].isPrefixOf path then
        .error .leadingSlashes
      else if scheme.isEmpty && authority.isEmpty && [':'].isPrefixOf path then
        .error .leadingColon
      else .ok ⟨scheme, authority, path⟩

/-! ## The path that is asked for -/

/-- The parts of a path between its slashes. -/
def segments (path : List Char) : List (List Char) :=
  path.foldr (fun c read =>
    if c = '/' then [] :: read
    else match read with
      | segment :: rest => (c :: segment) :: rest
      | [] => [[c]]) [[]]

/-- The segments behind those in `read`, which is in reverse, after one more: `..` takes the
last one away, but not the empty one in front of the root. -/
def walk (read : List (List Char)) (segment : List Char) : List (List Char) :=
  if segment = ['.'] then read
  else if segment = ['.', '.'] then
    match read with
    | [] | [[]] => read
    | _ :: rest => rest
  else segment :: read

/-- A path with its steps taken. -/
def takeSteps (path : List Char) : List Char :=
  List.intercalate ['/'] ((segments path).foldl walk []).reverse

/-- Decodes the escapes of a path once. A byte outside ASCII stands for no character of a
known path, whatever its neighbours are. -/
def decode : List Char → List Char
  | [] => []
  | '%' :: a :: b :: rest =>
    match Hex.digit? a, Hex.digit? b with
    | some high, some low =>
      let byte := 16 * high + low
      (if byte < 128 then Char.ofNat byte else '\ufffd') :: decode rest
    | _, _ => '%' :: decode (a :: b :: rest)
  | c :: rest => c :: decode rest

/-- The path that the service is asked for. -/
def resolve (target : Target) : List Char :=
  let bare := target.scheme.isEmpty && target.authority.isEmpty
  let given := if bare then target.path else takeSteps target.path
  let path :=
    if target.scheme.isEmpty || target.authority.isEmpty then
      takeSteps ('/' :: given.dropWhile (· = '/'))
    else given
  decode (decode path)

end Target

end SwapCompiler.Service
