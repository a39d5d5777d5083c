import SwapCompiler.Json.Reader
import SwapCompiler.Request
import SwapCompiler.Service.Message

/-!
# Replies to bodies that are no requests

A body that breaks rules is answered with all its violations. The values that stood there
are part of the full report. One that no reply can hold, as it has a number that is not
finite or a surrogate without a partner, makes the reply fail; what a later field of the
same name replaces does not count, nor do fields that reports leave out. A body that is not
even JSON is answered with the position of the fault.
-/

namespace SwapCompiler.Service

/-! ## Values in reports -/

/-- Whether reports leave out the fields with this name. -/
def isLeftOut (name : JsonString) : Bool :=
  name.startsWith ['_', 's', 'a']

mutual

/-- Whether a reply can hold the value. -/
def isReportable : Json → Bool
  | .null | .bool _ => true
  | .num n => n.isFinite
  | .str text => text.isUnicode
  | .arr items => areReportable items
  | .obj fields => haveReportable fields

/-- Whether a reply can hold all the values. -/
def areReportable : List Json → Bool
  | [] => true
  | item :: rest => isReportable item && areReportable rest

/-- Whether a reply can hold those of the fields that count. -/
def haveReportable : Json.Fields → Bool
  | [] => true
  | (name, value) :: rest =>
    ((name.isUnicode && isReportable value) || isLeftOut name || rest.any (·.1 == name)) &&
      haveReportable rest

end

/-! ## Violations -/

/-- A violation as the service reports it: from the body on, and anything with attributes
would do for an object. -/
def inBody (violation : Violation) : Violation :=
  let rule := match violation.rule with
    | .objectOf _ => .attributes
    | rule => rule
  { violation.within (.key "body") with rule }

/-- The reply to a body with violations. -/
def rejectBody (violations : List Violation) : Reply :=
  if violations.all (isReportable ·.input) then
    .json 422 (.obj [("detail", .arr (violations.map fun v => (inBody v).toJson))]) []
  else .failure []

/-- The violation of a body that is missing. -/
def missingBody : Violation := ⟨[], .missing, .null⟩

/-- The violation of a body that is not given as JSON. -/
def opaqueBody : Violation := ⟨[], .attributes, .null⟩

/-! ## Texts that are no JSON -/

/-- The reply to a body that cannot be read at all. -/
def rejectBytes : Reply :=
  .detail 400 "There was an error parsing the body"

/-- The reply to a body that cannot be read as JSON. -/
def rejectText : Json.ReadError → Reply
  | .malformed _ position =>
    .json 422 (.obj [("detail", .arr [.obj [("type", .str "json_invalid"),
      ("loc", .arr [.str "body", .int position]), ("msg", .str "JSON decode error")]])]) []
  | .integerTooLong _ | .tooDeep _ => rejectBytes

end SwapCompiler.Service
