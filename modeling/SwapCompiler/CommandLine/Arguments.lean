import SwapCompiler.Text.DecimalDigit

/-!
# Words of the command line

The command line takes the path of a request file and a few switches. Long switches may be
shortened as long as they stay clear, short ones may be put together behind one dash, and
no switch takes a value. Behind `--` every word is plain. Words are taken from left to
right: a switch that asks for help ends the reading at once, and so does a word of which
only a part can be a switch, while an unknown word and a word too many are noticed at the
end. A word that shortens several switches is noticed before all that.
-/

namespace SwapCompiler.CommandLine

/-- A switch. -/
inductive Switch
  | help
  | json
  | verbose
  deriving DecidableEq, Repr

namespace Switch

/-- The long switches. -/
def long : List (String × Switch) :=
  [("--help", .help), ("--json", .json), ("--verbose", .verbose)]

/-- The long switches that begin with the given text. -/
def startingWith (text : List Char) : List Switch :=
  (long.filter fun (name, _) => text.isPrefixOf name.toList).map (·.2)

/-- The switch of a letter behind a dash. -/
def ofLetter? : Char → Option Switch
  | 'h' => some .help
  | 'v' => some .verbose
  | _ => none

end Switch

/-- How a word is taken. -/
inductive Word
  | plain
  | switches (given : List Switch)
  /-- A word that looks like a switch and is none. -/
  | unknown
  /-- A switch with something behind it that is no switch. -/
  | faulty
  /-- The beginning of more than one switch. -/
  | unclear
  deriving DecidableEq, Repr

namespace Word

/-- Whether the characters are decimal digits, at least one. -/
def isDigits (text : List Char) : Bool :=
  !text.isEmpty && text.all fun c => (Text.decimalDigit? c).isSome

/-- Whether the characters behind a dash make a negative number. A line break may follow. -/
def isNumber (text : List Char) : Bool :=
  let text := if text.getLast? = some '\n' then text.dropLast else text
  isDigits text ||
    match text.span fun c => (Text.decimalDigit? c).isSome with
    | (_, '.' :: fraction) => isDigits fraction
    | _ => false

/-- A word that begins with a dash and shortens no switch. It is plain if it is a negative
number or holds a space. -/
def other (behindDash : List Char) : Word :=
  if isNumber behindDash || behindDash.contains ' ' then .plain else .unknown

/-- A short switch and the letters behind it, which have to be short switches too. -/
def cluster (first : Switch) (letters : List Char) : Word :=
  match letters.mapM Switch.ofLetter? with
  | some others => .switches (first :: others)
  | none => .faulty

/-- How a word is taken that does not stand behind `--`. An equals sign right behind a
short switch is skipped if more follows. -/
def classify (word : String) : Word :=
  match word.toList with
  | '-' :: '-' :: rest =>
    let (name, value) := rest.span (· ≠ '=')
    match Switch.startingWith ('-' :: '-' :: name) with
    | [] => other ('-' :: rest)
    | [switch] => if value.isEmpty then .switches [switch] else .faulty
    | _ => .unclear
  | '-' :: letter :: rest =>
    match Switch.ofLetter? letter, rest with
    | some _, ['='] => .faulty
    | some switch, '=' :: letters => cluster switch letters
    | some switch, letters => cluster switch letters
    | none, _ => other (letter :: rest)
  | _ => .plain

end Word

/-! ## Reading -/

/-- What is asked for: the path of the request file and how to print. -/
structure Options where
  path : String
  json : Bool
  verbose : Bool
  deriving DecidableEq, Repr

/-- What the command line asks for. -/
inductive Invocation
  | help
  | misused
  | run (options : Options)
  deriving DecidableEq, Repr

/-- What has been read so far. -/
structure Reading where
  path : Option String
  /-- The path is the word read last. -/
  atPath : Bool
  json : Bool
  verbose : Bool
  /-- There was an unknown word or a word too many. -/
  leftover : Bool

namespace Reading

/-- Nothing has been read. -/
def start : Reading := ⟨none, false, false, false, false⟩

/-- Takes a plain word. -/
def plain (reading : Reading) (word : String) : Reading :=
  match reading.path with
  | none => { reading with path := some word, atPath := true }
  | some _ => { reading with atPath := false, leftover := true }

/-- Takes switches, up to one that asks for help. -/
def switches (reading : Reading) : List Switch → Except Invocation Reading
  | [] => .ok reading
  | .help :: _ => .error .help
  | .json :: rest => switches { reading with json := true } rest
  | .verbose :: rest => switches { reading with verbose := true } rest

/-- Takes a word. -/
def word (reading : Reading) (text : String) : Except Invocation Reading :=
  match Word.classify text with
  | .plain => .ok (reading.plain text)
  | .switches given => switches { reading with atPath := false } given
  | .unknown => .ok { reading with atPath := false, leftover := true }
  | .faulty | .unclear => .error .misused

/-- The invocation, with the words from `--` on. The mark `--` belongs to the path next to
it, and is a word too many anywhere else. -/
def finish (reading : Reading) (behind : List String) : Invocation :=
  let run (path : String) : Invocation :=
    if reading.leftover then .misused else .run ⟨path, reading.json, reading.verbose⟩
  match reading.path, behind with
  | some path, [] => run path
  | some path, [_] => if reading.atPath then run path else .misused
  | none, [_, path] => run path
  | _, _ => .misused

end Reading

/-- What the words of the command line ask for. -/
def Invocation.ofWords (words : List String) : Invocation :=
  let (front, behind) := words.span (· ≠ "--")
  if front.any fun word => Word.classify word = .unclear then .misused
  else match front.foldlM Reading.word Reading.start with
    | .error invocation => invocation
    | .ok reading => reading.finish behind

end SwapCompiler.CommandLine
