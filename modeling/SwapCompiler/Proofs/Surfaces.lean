import SwapCompiler.Proofs.Contents
import SwapCompiler.Proofs.Schema.Violations
import SwapCompiler.Proofs.Service

/-!
# The service and the command line agree

Service and command line take the same request through the same compiler, but on ways of their
own. For every document that both can read they end alike (`Surfaces.Ends`): with the same
response, with a request that is invalid, with the same refusal, or with a failure that neither
handles. The statuses of the service and the exits of the command line follow from that
(`Surfaces.agree_of_reads`).
-/

namespace SwapCompiler

/-! ## Compiling -/

/-- Only for the third executor is a payload made. -/
theorem Request.executor_of_compile {network : Network} {request : Request} {payload : Bytes}
    (h : (request.compile network).outcome = .ok payload) : request.executor = .three := by
  rw [compile, Traced.outcome_bind, Outcome.bind_eq_ok] at h
  obtain ⟨selected, found, -⟩ := h
  cases given : request.executor with
  | three => rfl
  | one =>
    rw [given] at found
    cases found
  | two =>
    rw [given] at found
    cases found

/-- The service makes the payload and looks up the address of its executor. -/
theorem Service.outcome_compile (network : Network) (request : Request) :
    (compile network request).outcome = (do
      let payload ← (request.compile network).outcome
      let address ← network.executorAddress request.executor
      return (payload, address)) := by
  simp only [compile, Traced.outcome_bind, Traced.outcome_pure, Traced.outcome_report,
    Traced.outcome_monadLift, Outcome.ok_bind]
  rfl

namespace Surfaces

open Service CommandLine

/-! ## How a request ends -/

/-- How a reply and a run of the command line end for one document. -/
inductive Ends (json : Bool) : Reply → Report → Prop
  /-- There is a response. -/
  | built (response : Response) (served printed : List Event) :
    Ends json (.json 200 (response.toJson .wire) served)
      (.printed (if json then (response.toJson .wire).writeIndented else response.bytecode.text)
        printed)
  /-- The document is no request. -/
  | invalid (violations : Json) (path : String) :
    Ends json (.json 422 violations []) (.exit 1 [.fileInvalid path])
  /-- The request is refused. -/
  | refused (reason : Refusal) (served logged : List Event) :
    Ends json
      (.json 400 (.obj [("detail", .str reason.message), ("error", .str reason.kind.name)]) served)
      (.exit 1 (logged ++ [.fileRefused reason]))
  /-- Something was not handled. -/
  | failed (cause : Crash) (served logged : List Event) :
    Ends json (.failure served) (.crash cause logged)

/-- A document that is no request ends alike, as all that is wrong with it can be reported. -/
theorem ends_of_invalid {document : Json} (formed : document.isWellFormed = true)
    {violations : List Violation} (h : Request.ofJson document = .invalid violations)
    (network : Network) (environment : Environment) (path : String) (json : Bool) :
    Ends json (answerJson network document) (compileJson environment path document json) := by
  have reports := Request.reports_ofJson document formed
  rw [h] at reports
  have reported : violations.all (isReportable ·.input) = true :=
    List.all_eq_true.mpr fun violation member => (reports violation member).input
  have written : violations.findSome? Violation.obstacle? = none :=
    List.findSome?_eq_none_iff.mpr fun violation member => (reports violation member).message
  simp only [answerJson, compileJson, h, rejectBody, if_pos reported, written]
  exact .invalid _ path

/-- A payload makes a response on both ways. -/
theorem ends_of_payload {network : Network} {request : Request} {payload : Bytes}
    {address : String} (h : (request.compile network).outcome = .ok payload)
    (found : network.executorAddress .three = .ok address)
    (strict : isStrictAddress address = true) (json : Bool) :
    ∃ response, Response.make payload request.executor address = .valid response ∧
      (∃ served, answer network request = .json 200 (response.toJson .wire) served) ∧
      ∀ events, print network request payload json events =
        .printed (if json then (response.toJson .wire).writeIndented else response.bytecode.text)
          events := by
  have three := Request.executor_of_compile h
  have made := Response.make_eq_valid payload request.executor strict
  refine ⟨_, made, ?_, fun events => ?_⟩
  · have outcome : (Service.compile network request).outcome = .ok (payload, address) := by
      rw [Service.outcome_compile, h, three, found]
      rfl
    exact ⟨(Service.compile network request).events, by simp only [answer, outcome, made]⟩
  · cases json with
    | true => simp only [print, three, found, if_true, three ▸ made]
    | false => rfl

/-- A request ends alike, where the configuration has the third executor at a strict address. -/
theorem ends_of_request {environment : Environment} {network : Network}
    (configured : Network.ofEnvironment environment = .ok network) {address : String}
    (found : network.executorAddress .three = .ok address)
    (strict : isStrictAddress address = true) (request : Request) (json : Bool) :
    Ends json (answer network request) (CommandLine.compile environment request json) := by
  -- the equation of this function takes long to make, its definition is used as it is
  delta CommandLine.compile
  cases run : (request.compile network).outcome with
  | ok payload =>
    obtain ⟨response, -, ⟨served, answered⟩, printed⟩ := ends_of_payload run found strict json
    simp only [answered, configured, run, printed]
    exact .built response served _
  | error fault =>
    have outcome : (Service.compile network request).outcome = .error fault := by
      rw [Service.outcome_compile, run]
      rfl
    simp only [answer, outcome, configured, run]
    cases fault with
    | refused reason => exact .refused reason _ _
    | _ => exact .failed _ _ _

/-- A document ends alike in an environment with strict addresses. -/
theorem ends_of_document {environment : Environment} (addresses : environment.IsStrict)
    {document : Json} (formed : document.isWellFormed = true) {network : Network}
    (configured : Network.ofEnvironment environment = .ok network) (path : String) (json : Bool) :
    Ends json (answerJson network document) (compileJson environment path document json) := by
  cases read : Request.ofJson document with
  | invalid violations => exact ends_of_invalid formed read network environment path json
  | valid request =>
    obtain ⟨other, address, configured', found, strict⟩ := Network.exists_ofEnvironment addresses
    rw [configured, Except.ok.injEq] at configured'
    subst configured'
    simp only [answerJson, compileJson, read]
    exact ends_of_request configured found strict request json

/-- What is not shown of a run does not change how it ends. -/
theorem Ends.shown {json : Bool} {reply : Reply} {report : Report} (ends : Ends json reply report)
    (verbose : Bool) :
    Ends json reply { report with events := report.events.filter (isShown verbose) } := by
  cases ends with
  | built response served printed => exact .built response served _
  | invalid violations path =>
    have shown : [Event.fileInvalid path].filter (isShown verbose) = [.fileInvalid path] := by
      cases verbose <;> rfl
    simp only [Report.exit, shown]
    exact .invalid violations path
  | refused reason served logged =>
    have shown : [Event.fileRefused reason].filter (isShown verbose) = [.fileRefused reason] := by
      cases verbose <;> rfl
    simp only [Report.exit, List.filter_append, shown]
    exact .refused reason served _
  | failed cause served logged => exact .failed cause served _

/-! ## What the statuses and the exits say -/

/-- The run ended with exit code 1 after an event of the given name. -/
def StopsWith (report : Report) (name : String) : Prop :=
  report.outcome = .ok 1 ∧ ∃ event, report.events.getLast? = some event ∧ event.name = name

/-- The reply and the run correspond: in status and exit, and in what they give. -/
structure Agree (json : Bool) (reply : Reply) (report : Report) : Prop where
  built : reply.status = 200 ↔ report.outcome = .ok 0 ∧ report.output ≠ ""
  response : reply.status = 200 → ∃ response : Response,
    reply.content = .json (response.toJson .wire) ∧
      report.output = (if json then (response.toJson .wire).writeIndented
        else response.bytecode.text) ++ "\n"
  invalid : reply.status = 422 ↔ StopsWith report "invalid_request"
  refused : reply.status = 400 ↔ StopsWith report "bytecode_build_failed"
  reason : reply.status = 400 → ∃ detail error : String,
    reply.content = .json (.obj [("detail", .str detail), ("error", .str error)]) ∧
      ∃ event, report.events.getLast? = some event ∧
        event.fields = ([("error_type", .str error), ("error", .str detail)] : Json.Fields)

theorem stopsWith_exit (logged : List Event) (event : Event) (name : String) :
    StopsWith (.exit 1 (logged ++ [event])) name ↔ event.name = name := by
  constructor
  · rintro ⟨-, last, found, named⟩
    rw [Report.exit, List.getLast?_concat, Option.some.injEq] at found
    rw [found, named]
  · intro named
    exact ⟨rfl, event, List.getLast?_concat, named⟩

theorem not_stopsWith {report : Report} (other : report.outcome ≠ .ok 1) (name : String) :
    ¬ StopsWith report name :=
  fun stops => other stops.1

/-- What ends alike agrees. -/
theorem Ends.agree {json : Bool} {reply : Reply} {report : Report}
    (ends : Ends json reply report) : Agree json reply report := by
  cases ends with
  | built response served printed =>
    refine ⟨iff_of_true rfl ⟨rfl, ?_⟩, fun _ => ⟨response, rfl, rfl⟩,
      iff_of_false nofun (not_stopsWith ?_ _), iff_of_false nofun (not_stopsWith ?_ _), nofun⟩
    · simp [Report.printed]
    · rintro ⟨⟩
    · rintro ⟨⟩
  | invalid violations path =>
    have stops (name : String) := stopsWith_exit [] (.fileInvalid path) name
    refine ⟨iff_of_false nofun nofun, nofun, iff_of_true rfl ((stops _).mpr rfl),
      iff_of_false nofun ?_, nofun⟩
    intro stopped
    exact absurd ((stops _).mp stopped) (by decide : "invalid_request" ≠ "bytecode_build_failed")
  | refused reason served logged =>
    have stops (name : String) := stopsWith_exit logged (.fileRefused reason) name
    refine ⟨iff_of_false nofun nofun, nofun, iff_of_false nofun ?_,
      iff_of_true rfl ((stops _).mpr rfl),
      fun _ => ⟨_, _, rfl, .fileRefused reason, List.getLast?_concat, rfl⟩⟩
    intro stopped
    exact absurd ((stops _).mp stopped) (by decide : "bytecode_build_failed" ≠ "invalid_request")
  | failed cause served logged =>
    refine ⟨iff_of_false nofun nofun, nofun, iff_of_false nofun (not_stopsWith ?_ _),
      iff_of_false nofun (not_stopsWith ?_ _), nofun⟩
    · rintro ⟨⟩
    · rintro ⟨⟩

/-! ## A request in a file and in a message -/

end Surfaces

namespace Sample

/-- The text of a request with one leg, in short pieces. -/
def requestText : List Char :=
  ["\x7b\"priceRoute\":\x7b\"srcToken\":\"", token.text, "\",\"destToken\":\"", native.text,
    "\",\"srcAmount\":\"1000\",", "\"destAmount\":\"999\",", "\"bestRoute\":[\x7b\"legs\":[\x7b",
    "\"srcToken\":\"", token.text, "\",\"dest_token\":\"", native.text, "\",\"srcAmount\":1000,",
    "\"destAmount\":\"999\",", "\"percent\":100\x7d]\x7d]\x7d,", "\"exchangeParams\":[\x7b",
    "\"targetExchange\":\"", exchange.text, "\",\"exchangeData\":\"", "0x12345678\"\x7d],",
    "\"sender\":\"", exchange.text, "\"\x7d"].flatMap String.toList

/-- A message with the request. -/
def requestMessage : Service.Message :=
  ⟨"post", "/bytecode", [("Content-Type", "application/json"), ("Content-Length", "559")],
    String.ofList requestText⟩

/-- An environment with a receiver of its own. -/
def environment : Environment :=
  [("EXECUTOR_RECEIVER_ADDRESS", exchange.text), ("PATH", "/usr/bin")]

/-- The only file holds the request. -/
def file? (path : String) : Option String :=
  if path = "request.json" then some (String.ofList requestText) else none

/-- Whether a payload is made of a document in an environment. -/
def builds (environment : Environment) (document : Json) : Bool :=
  match Network.ofEnvironment environment, Request.ofJson document with
  | .ok network, .valid request => (request.compile network).outcome.isOk
  | _, _ => false

theorem exists_payload_of_builds {environment : Environment} {document : Json}
    (h : builds environment document = true) :
    ∃ network request payload, Network.ofEnvironment environment = .ok network ∧
      Request.ofJson document = .valid request ∧
      (request.compile network).outcome = .ok payload := by
  unfold builds at h
  split at h
  · rename_i network request configured read
    obtain ⟨payload, made⟩ := Outcome.exists_of_isOk h
    exact ⟨network, request, payload, configured, read, made⟩
  · cases h

end Sample

namespace Surfaces

open Service CommandLine

/-! ## The main statement -/

/-- The words of the command line ask to compile a file that holds the document. -/
structure Reads (file? : String → Option String) (words : List String) (options : Options)
    (document : Json) : Prop where
  asked : Invocation.ofWords words = .run options
  held : ∃ text, file? options.path = some text ∧ Json.read text = .ok document

variable {environment : Environment} {document : Json} {message : Message}
  {file? : String → Option String} {words : List String} {options : Options}

theorem ends_of_reads (addresses : environment.IsStrict) (formed : document.isWellFormed = true)
    (earlier : List Message) (holds : message.Holds document)
    (reads : Reads file? words options document) (program : String) :
    Ends options.json (handle (kept environment earlier) environment message).1
      (run program environment file? words) := by
  obtain ⟨network, -, configured, -⟩ := Network.exists_ofEnvironment addresses
  obtain ⟨text, found, read⟩ := reads.held
  rw [handle_of_holds (isOf_kept earlier) configured holds]
  simp only [run, reads.asked, runOptions, found, compileText, read]
  exact (ends_of_document addresses formed configured options.path options.json).shown _

/-- In an environment with strict addresses the service, whatever it was asked before, and the
command line agree on every well-formed document, and every payload that is made is served in a
response. -/
theorem agree_of_reads (addresses : environment.IsStrict) (formed : document.isWellFormed = true)
    (earlier : List Message) (holds : message.Holds document)
    (reads : Reads file? words options document) (program : String) :
    Agree options.json (handle (kept environment earlier) environment message).1
        (run program environment file? words) ∧
      ∀ network request payload, Network.ofEnvironment environment = .ok network →
        Request.ofJson document = .valid request →
        (request.compile network).outcome = .ok payload →
        ∃ response : Response,
          (handle (kept environment earlier) environment message).1.status = 200 ∧
          (handle (kept environment earlier) environment message).1.content =
            .json (response.toJson .wire) ∧
          response.bytecode.text = Hex.encode payload ∧ response.executor = request.executor ∧
          network.executorAddress request.executor = .ok response.executorAddress.text := by
  refine ⟨(ends_of_reads addresses formed earlier holds reads program).agree, ?_⟩
  intro network request payload configured read made
  obtain ⟨other, address, configured', found, strict⟩ := Network.exists_ofEnvironment addresses
  rw [configured, Except.ok.injEq] at configured'
  subst configured'
  have three := Request.executor_of_compile made
  obtain ⟨response, valid, ⟨served, answered⟩, -⟩ := ends_of_payload made found strict true
  rw [Response.make_eq_valid payload request.executor strict] at valid
  cases valid
  rw [handle_of_holds (isOf_kept earlier) configured holds, answerJson, read]
  exact ⟨_, congrArg Reply.status answered, congrArg Reply.content answered, rfl, rfl,
    three ▸ found⟩

theorem agree_of_reads_request :
    ∃ document response, Sample.environment.IsStrict ∧ document.isWellFormed = true ∧
      Sample.requestMessage.Holds document ∧
      Reads Sample.file? ["request.json", "--json"] ⟨"request.json", true, false⟩ document ∧
      Agree true (handle (kept Sample.environment [Sample.requestMessage]) Sample.environment
          Sample.requestMessage).1
        (run "compile" Sample.environment Sample.file? ["request.json", "--json"]) ∧
      (handle (kept Sample.environment [Sample.requestMessage]) Sample.environment
        Sample.requestMessage).1.content = .json (Response.toJson .wire response) := by
  have addresses : Sample.environment.IsStrict := by decide +kernel
  have known : (Json.readPoints (Sample.requestText.map .char)).toOption.any (fun document =>
      document.isWellFormed && Sample.builds Sample.environment document) = true := by
    decide +kernel
  obtain ⟨document, read, known⟩ := Outcome.exists_of_any known
  rw [Bool.and_eq_true] at known
  obtain ⟨formed, builds⟩ := known
  have read : Json.read (String.ofList Sample.requestText) = .ok document := by
    rw [Json.read, String.toList_ofList, read]
  have some : ∀ c ∈ (String.ofList Sample.requestText).toList, c ≠ '\x00' := by
    have all : Sample.requestText.all (· ≠ '\x00') = true := by decide +kernel
    rw [String.toList_ofList]
    intro c member
    exact of_decide_eq_true (List.all_eq_true.mp all c member)
  have holds : Sample.requestMessage.Holds document :=
    ⟨by decide +kernel, by decide +kernel, ⟨559, by decide +kernel, by decide⟩, by decide +kernel,
      readBody_of_read read some⟩
  have reads : Reads Sample.file? ["request.json", "--json"] ⟨"request.json", true, false⟩
      document :=
    ⟨by decide +kernel, _, rfl, read⟩
  obtain ⟨agree, complete⟩ :=
    agree_of_reads addresses formed [Sample.requestMessage] holds reads "compile"
  obtain ⟨network, request, payload, configured, valid, made⟩ :=
    Sample.exists_payload_of_builds builds
  obtain ⟨response, -, content, -⟩ := complete network request payload configured valid made
  exact ⟨document, response, addresses, formed, holds, reads, agree, content⟩

end Surfaces

end SwapCompiler
