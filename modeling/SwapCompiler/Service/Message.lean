import SwapCompiler.Event
import SwapCompiler.Service.Target
import SwapCompiler.Text.LowerCase

/-!
# Messages of the service

What a client sends and what it gets back. The names of headers and the method are taken
in any case. A message whose headers are not ASCII or whose path is no reference is never
sent. Two endpoints are known, each with one method; their paths may end in slashes.
-/

namespace SwapCompiler.Service

/-- A message from a client. -/
structure Message where
  method : String
  /-- The reference to what is asked for. -/
  path : String
  headers : List (String × String)
  /-- The text of the body, empty if there is none. -/
  body : String

namespace Message

/-- The value of a header. -/
def header? (message : Message) (name : String) : Option String :=
  (message.headers.find? fun (key, _) => Text.lower key == name).map (·.2)

/-- The largest length of a body, in bytes. -/
def maxLength : Nat := 1024 * 1024

/-- The length that the message claims to have; an empty header claims nothing. -/
def claimedLength (message : Message) : Except Text.LiteralError Int :=
  match message.header? "content-length" with
  | none => .ok message.body.utf8ByteSize
  | some text => if text.isEmpty then .ok 0 else Text.readInteger text

/-- Whether a content type stands for JSON: `application/json`, or another subtype of
`application` that ends in `+json`. Parameters are ignored. -/
def isJsonType (contentType : String) : Bool :=
  let type := Text.strip Text.isBlankOrSeparator
    ((Text.lower contentType).toList.takeWhile (· ≠ ';'))
  let subtype := type.drop "application/".length
  "application/".toList.isPrefixOf type && !subtype.contains '/' &&
    (subtype == "json".toList || "+json".toList.isSuffixOf subtype)

/-- Whether the body is said to be JSON. -/
def holdsJson (message : Message) : Bool :=
  match message.header? "content-type" with
  | none => false
  | some contentType => isJsonType contentType

/-- The capitals of a character, if they are in ASCII; otherwise the character itself. -/
def capitals (c : Char) : List Char :=
  match c with
  | 'ß' => ['S', 'S']
  | 'ı' => ['I']
  | 'ſ' => ['S']
  | 'ﬀ' => ['F', 'F']
  | 'ﬁ' => ['F', 'I']
  | 'ﬂ' => ['F', 'L']
  | 'ﬃ' => ['F', 'F', 'I']
  | 'ﬄ' => ['F', 'F', 'L']
  | 'ﬅ' | 'ﬆ' => ['S', 'T']
  | c => [c.toUpper]

/-- The message with its method in capitals. -/
def normalize (message : Message) : Message :=
  { message with method := String.ofList (message.method.toList.flatMap capitals) }

/-! ## Messages that cannot be sent -/

/-- Why a message cannot be sent. -/
inductive Flaw
  | target (flaw : Target.Flaw)
  | header (obstacle : Text.Obstacle)
  deriving DecidableEq, Repr

/-- The first text in a header that is not ASCII. -/
def headerFlaw? (header : String × String) : Option Flaw :=
  [header.1, header.2].findSome? fun text =>
    (Text.Charset.ascii.obstacle? (text.toList.map .char)).map .header

/-- Why the message cannot be sent, if there is a reason. -/
def flaw? (message : Message) : Option Flaw :=
  match Target.ofText message.path with
  | .error flaw => some (.target flaw)
  | .ok _ => message.headers.findSome? headerFlaw?

end Message

/-! ## Endpoints -/

/-- What the service can be asked for. -/
inductive Endpoint
  /-- A payload for a request. -/
  | bytecode
  /-- Whether the service is up. -/
  | health
  deriving DecidableEq, Repr

namespace Endpoint

/-- The path of an endpoint. -/
def path : Endpoint → String
  | .bytecode => "/bytecode"
  | .health => "/health"

/-- The method of an endpoint. -/
def method : Endpoint → String
  | .bytecode => "POST"
  | .health => "GET"

/-- A path without the slashes at its end, and without one line feed in front of them. -/
def bare (path : List Char) : List Char :=
  match path.reverse.dropWhile (· = '/') with
  | '\n' :: rest => rest.reverse
  | path => path.reverse

/-- The endpoint that a reference leads to. -/
def ofPath? (text : String) : Option Endpoint :=
  match Target.ofText text with
  | .error _ => none
  | .ok target =>
    [Endpoint.bytecode, .health].find? fun endpoint =>
      endpoint.path.toList == bare target.resolve

end Endpoint

/-! ## Replies -/

/-- The body of a reply. -/
inductive Content
  | json (value : Json)
  | text (text : String)

/-- A reply to a client, and what was logged before it. -/
structure Reply where
  status : Nat
  content : Content
  events : List Event

namespace Reply

/-- A reply in JSON. -/
def json (status : Nat) (value : Json) (events : List Event) : Reply :=
  ⟨status, .json value, events⟩

/-- A reply with nothing but a remark. -/
def detail (status : Nat) (remark : String) : Reply :=
  .json status (.obj [("detail", .str remark)]) []

/-- The reply when the service itself fails. -/
def failure (events : List Event) : Reply :=
  ⟨500, .text "Internal Server Error", events⟩

/-- The reply without its body. -/
def withoutContent (reply : Reply) : Reply :=
  { reply with content := .text "" }

end Reply

end SwapCompiler.Service
