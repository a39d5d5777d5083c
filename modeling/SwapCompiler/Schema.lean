import SwapCompiler.Amount

/-!
# Checking values against a schema

A check turns a JSON value into a value of the domain or lists everything that is wrong
with it. A violation says where it is, which rule is broken and what stood there. Checks
of several fields are put together so that the violations of all of them are listed, in
the order of the fields.
-/

namespace SwapCompiler

/-- One step into a value: a field or an item. -/
inductive Step
  | key (name : String)
  | index (position : Nat)
  deriving DecidableEq, Repr

/-- A rule that a value breaks. -/
inductive Rule
  | missing
  /-- An object of the named sort is asked for. -/
  | objectOf (model : String)
  /-- An object, or anything with attributes, is asked for. -/
  | attributes
  | list
  | text
  /-- A text without unpaired surrogates is asked for. -/
  | unicodeText
  | pattern (form : String)
  | amount (error : Amount.Error)
  | real
  | realText
  | greaterThan (bound : Nat)
  | whole
  | wholeText
  | wholeSize
  | noFraction
  | finite
  | atLeast (bound : Nat)
  | atMost (bound : Nat)
  | truth
  | truthText
  | executorName
  deriving DecidableEq, Repr

namespace Rule

/-- The code of a broken rule. -/
def code : Rule → String
  | .missing => "missing"
  | .objectOf _ => "model_type"
  | .attributes => "model_attributes_type"
  | .list => "list_type"
  | .text => "string_type"
  | .unicodeText => "string_unicode"
  | .pattern _ => "string_pattern_mismatch"
  | .amount _ => "value_error"
  | .real => "float_type"
  | .realText => "float_parsing"
  | .greaterThan _ => "greater_than"
  | .whole => "int_type"
  | .wholeText => "int_parsing"
  | .wholeSize => "int_parsing_size"
  | .noFraction => "int_from_float"
  | .finite => "finite_number"
  | .atLeast _ => "greater_than_equal"
  | .atMost _ => "less_than_equal"
  | .truth => "bool_type"
  | .truthText => "bool_parsing"
  | .executorName => "enum"

/-- The wording of a broken rule. -/
def message : Rule → JsonString
  | .missing => "Field required"
  | .objectOf model => "Input should be a valid dictionary or instance of " ++ model
  | .attributes => "Input should be a valid dictionary or object to extract fields from"
  | .list => "Input should be a valid list"
  | .text => "Input should be a valid string"
  | .unicodeText =>
    "Input should be a valid string, unable to parse raw data as a unicode string"
  | .pattern form => "String should match pattern '" ++ form ++ "'"
  | .amount error => .append "Value error, " error.message
  | .real => "Input should be a valid number"
  | .realText => "Input should be a valid number, unable to parse string as a number"
  | .greaterThan bound => s!"Input should be greater than {bound}"
  | .whole => "Input should be a valid integer"
  | .wholeText => "Input should be a valid integer, unable to parse string as an integer"
  | .wholeSize => "Unable to parse input string as an integer, exceeded maximum size"
  | .noFraction => "Input should be a valid integer, got a number with a fractional part"
  | .finite => "Input should be a finite number"
  | .atLeast bound => s!"Input should be greater than or equal to {bound}"
  | .atMost bound => s!"Input should be less than or equal to {bound}"
  | .truth => "Input should be a valid boolean"
  | .truthText => "Input should be a valid boolean, unable to interpret input"
  | .executorName => "Input should be 'Executor01', 'Executor02' or 'Executor03'"

end Rule

/-- A broken rule, where, and the value that stood there; for a missing field that is the
object without it. -/
structure Violation where
  path : List Step
  rule : Rule
  input : Json

namespace Violation

/-- The violation seen from one level further out. -/
def within (step : Step) (violation : Violation) : Violation :=
  { violation with path := step :: violation.path }

/-- A step as JSON. -/
def stepJson : Step → Json
  | .key name => .str name
  | .index position => .int position

/-- The violation as JSON, without the value that stood there. -/
def toJson (violation : Violation) : Json :=
  .obj [("type", .str violation.rule.code), ("loc", .arr (violation.path.map stepJson)),
    ("msg", .str violation.rule.message)]

/-- What keeps the wording of the violation from being written out. Only an amount is
quoted as it is, so only there a surrogate may stand. -/
def obstacle? (violation : Violation) : Option Text.Obstacle :=
  match violation.rule with
  | .amount error => Text.Charset.utf8.obstacle? error.message.points
  | _ => none

end Violation

/-- A checked value, or all its violations. -/
inductive Checked (α : Type)
  | valid (value : α)
  | invalid (violations : List Violation)

namespace Checked

variable {α β : Type}

/-- Applies a function to a checked value. -/
def map (f : α → β) : Checked α → Checked β
  | .valid value => .valid (f value)
  | .invalid violations => .invalid violations

/-- Applies a checked function to a checked value, listing the violations of both. -/
def apply (f : Checked (α → β)) (x : Checked α) : Checked β :=
  match f, x with
  | .valid f, .valid value => .valid (f value)
  | .valid _, .invalid violations => .invalid violations
  | .invalid violations, .valid _ => .invalid violations
  | .invalid violations, .invalid others => .invalid (violations ++ others)

/-- Continues a check with the value it gave. -/
def andThen (x : Checked α) (next : α → Checked β) : Checked β :=
  match x with
  | .valid value => next value
  | .invalid violations => .invalid violations

instance : Functor Checked where
  map := map

instance : Applicative Checked where
  pure := .valid
  seq f x := apply f (x ())

/-- One violation at the value itself. -/
def broken (rule : Rule) (input : Json) : Checked α :=
  .invalid [⟨[], rule, input⟩]

/-- The check seen from one level further out. -/
def within (step : Step) : Checked α → Checked α
  | .valid value => .valid value
  | .invalid violations => .invalid (violations.map (·.within step))

end Checked

/-! ## Objects and lists -/

/-- The two names of a field: on the wire, and in full. Either is read, and the first wins
if both are there. -/
structure FieldName where
  wire : String
  plain : String

namespace FieldName

/-- A field with one name. -/
def one (name : String) : FieldName := ⟨name, name⟩

/-- The field's value and the name under which it is found. -/
def find? (name : FieldName) (fields : Json.Fields) : Option (String × Json) :=
  match Json.lookup fields name.wire with
  | some value => some (name.wire, value)
  | none => (Json.lookup fields name.plain).map fun value => (name.plain, value)

end FieldName

namespace Schema

variable {α : Type}

/-- A field that must be there. -/
def required (fields : Json.Fields) (name : FieldName) (check : Json → Checked α) :
    Checked α :=
  match name.find? fields with
  | some (key, value) => (check value).within (.key key)
  | none => .invalid [⟨[.key name.wire], .missing, .obj fields⟩]

/-- A field that has a default. -/
def defaulted (fields : Json.Fields) (name : FieldName) (default : α)
    (check : Json → Checked α) : Checked α :=
  match name.find? fields with
  | some (key, value) => (check value).within (.key key)
  | none => .valid default

/-- An object of the named sort. -/
def object (model : String) (check : Json.Fields → Checked α) (json : Json) :
    Checked α :=
  match json with
  | .obj fields => check fields
  | _ => .broken (.objectOf model) json

/-- The items of a list from the given position on. -/
def items (check : Json → Checked α) (position : Nat) : List Json → Checked (List α)
  | [] => .valid []
  | item :: rest =>
    List.cons <$> (check item).within (.index position) <*> items check (position + 1) rest

/-- A list. -/
def list (check : Json → Checked α) (json : Json) : Checked (List α) :=
  match json with
  | .arr values => items check 0 values
  | _ => .broken .list json

/-- A value that may be null. -/
def nullable (check : Json → Checked α) (json : Json) : Checked (Option α) :=
  match json with
  | .null => .valid none
  | _ => (check json).map some

end Schema

end SwapCompiler
