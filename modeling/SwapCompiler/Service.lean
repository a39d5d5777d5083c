import SwapCompiler.Json.Encoding
import SwapCompiler.Service.Rejection

/-!
# The service

The service compiles the request in the body of a message and replies with the payload.
A message that is too long is turned away first. A body that is no request is answered
with the list of its violations, a refused request with the reason. The configuration is
read from the environment when a payload is first asked for and kept from then on.
-/

namespace SwapCompiler.Service

/-- The version of the service. -/
def version : String := "0.1.0"

/-! ## Requests -/

/-- The payload of a request and the address of its executor. -/
def compile (network : Network) (request : Request) : Traced (Bytes × String) := do
  Traced.report (.requestReceived request.executor request.route.legs.length
    request.templates.length request.wraps.isSome)
  let payload ← request.compile network
  let address ← network.executorAddress request.executor
  return (payload, address)

/-- The reply to a request. -/
def answer (network : Network) (request : Request) : Reply :=
  let run := compile network request
  match run.outcome with
  | .ok (payload, address) =>
    match Response.make payload request.executor address with
    | .valid response => .json 200 (response.toJson .wire) run.events
    | .invalid _ => .failure run.events
  | .error (.refused reason) =>
    .json 400 (.obj [("detail", .str reason.message), ("error", .str reason.kind.name)])
      (run.events ++ [.requestRefused request.executor reason])
  | .error _ =>
    .failure (run.events ++ [.requestFailed request.executor request.route.legs.length])

/-- The reply to a body, read as JSON. -/
def answerJson (network : Network) (body : Json) : Reply :=
  match Request.ofJson body with
  | .valid request => answer network request
  | .invalid violations => rejectBody violations

/-! ## Messages -/

/-- The configuration read from the environment, if it has been read. -/
abbrev Cache := Option Network

/-- The configuration: the one that was kept, or the one of the environment. -/
def Cache.resolve (cache : Cache) (environment : Environment) : Except Fault Network :=
  match cache with
  | some network => .ok network
  | none => Network.ofEnvironment environment

/-- Replies with the configuration, and keeps it. -/
def withNetwork (cache : Cache) (environment : Environment) (reply : Network → Reply) :
    Reply × Cache :=
  match cache.resolve environment with
  | .ok network => (reply network, some network)
  | .error _ => (.failure [], none)

/-- The value that a body holds, or the reply to a body that holds none. -/
def readBody (body : String) : Except Reply Json :=
  match Json.Encoding.decode? body with
  | none => .error rejectBytes
  | some points =>
    match Json.readPoints points with
    | .ok json => .ok json
    | .error error => .error (rejectText error)

/-- The reply to a message that asks for a payload. -/
def bytecode (cache : Cache) (environment : Environment) (message : Message) :
    Reply × Cache :=
  if message.body.isEmpty then
    withNetwork cache environment fun _ => rejectBody [missingBody]
  else if !message.holdsJson then
    withNetwork cache environment fun _ => rejectBody [opaqueBody]
  else
    match readBody message.body with
    | .error reply => (reply, cache)
    | .ok body => withNetwork cache environment fun network => answerJson network body

/-- The reply to a message of any length. -/
def route (cache : Cache) (environment : Environment) (message : Message) : Reply × Cache :=
  match Endpoint.ofPath? message.path with
  | none => (.detail 404 "Not Found", cache)
  | some endpoint =>
    if message.method ≠ endpoint.method then (.detail 405 "Method Not Allowed", cache)
    else match endpoint with
      | .bytecode => bytecode cache environment message
      | .health =>
        (.json 200 (.obj [("status", .str "ok"), ("version", .str version)]) [], cache)

/-- The reply to a message, and the configuration kept for the next one. -/
def handle (cache : Cache) (environment : Environment) (message : Message) : Reply × Cache :=
  let message := message.normalize
  let (reply, cache) := match message.claimedLength with
    | .error _ => (Reply.failure [], cache)
    | .ok length =>
      if (Message.maxLength : Int) < length then (.detail 413 "Request too large", cache)
      else route cache environment message
  (if message.method = "HEAD" then reply.withoutContent else reply, cache)

end SwapCompiler.Service
