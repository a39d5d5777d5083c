import SwapCompiler.Compiler
import SwapCompiler.Schema.Route

/-!
# Requests and responses

A request holds all that is needed to compile one payload; a response holds the payload
as text and the executor it is meant for. Both have the same form on the command line and
in the service. `Request.compile` picks the compiler for the executor and runs it.
-/

namespace SwapCompiler

namespace FieldName

/-- The priced route. -/
def priceRoute : FieldName := ⟨"priceRoute", "price_route"⟩

/-- The call templates. -/
def exchangeParams : FieldName := ⟨"exchangeParams", "exchange_params"⟩

/-- The caller of the router. -/
def sender : FieldName := .one "sender"

/-- The wrap templates. -/
def wethCallData : FieldName := ⟨"wethCallData", "weth_call_data"⟩

/-- The executor version. -/
def executor : FieldName := .one "executor"

/-- The payload. -/
def bytecode : FieldName := .one "bytecode"

/-- The address of the executor. -/
def executorAddress : FieldName := ⟨"executorAddress", "executor_address"⟩

end FieldName

open Schema

/-- Everything needed to compile one payload. -/
structure Request where
  route : PriceRoute
  /-- One template per leg of the best route, in the same order. -/
  templates : List CallTemplate
  sender : Address
  wraps : Option WrapTemplates
  executor : Executor

/-- A compiled payload. -/
structure Response where
  bytecode : HexData
  executor : Executor
  executorAddress : Address
  deriving DecidableEq

/-! ## As JSON -/

/-- Reads a request. -/
def Request.ofJson : Json → Checked Request :=
  object "BuildRequest" fun fields =>
    Request.mk <$> required fields .priceRoute PriceRoute.ofJson
      <*> required fields .exchangeParams (list CallTemplate.ofJson)
      <*> required fields .sender address
      <*> defaulted fields .wethCallData none (nullable WrapTemplates.ofJson)
      <*> defaulted fields .executor .three Schema.executor

/-- Writes a request. -/
def Request.toJson (style : NameStyle) (request : Request) : Json :=
  .obj [(FieldName.priceRoute.inStyle style, request.route.toJson style),
    (FieldName.exchangeParams.inStyle style,
      .arr (request.templates.map (CallTemplate.toJson style))),
    (FieldName.sender.inStyle style, .str request.sender.text),
    (FieldName.wethCallData.inStyle style,
      (request.wraps.map (WrapTemplates.toJson style)).getD .null),
    (FieldName.executor.inStyle style, .str request.executor.name)]

/-- Reads a response. -/
def Response.ofJson : Json → Checked Response :=
  object "BuildResponse" fun fields =>
    Response.mk <$> required fields .bytecode hexData
      <*> required fields .executor Schema.executor
      <*> required fields .executorAddress address

/-- Writes a response. -/
def Response.toJson (style : NameStyle) (response : Response) : Json :=
  .obj [(FieldName.bytecode.inStyle style, .str response.bytecode.text),
    (FieldName.executor.inStyle style, .str response.executor.name),
    (FieldName.executorAddress.inStyle style, .str response.executorAddress.text)]

/-- The response with a payload for an executor at an address. The parts are checked like
those of a response from outside: a configured address need not have the strict form. -/
def Response.make (bytecode : Bytes) (executor : Executor) (address : String) :
    Checked Response :=
  Response.ofJson (.obj [(FieldName.bytecode.plain, .str (Hex.encode bytecode)),
    (FieldName.executor.plain, .str executor.name),
    (FieldName.executorAddress.plain, .str address)])

/-! ## Compiling -/

/-- The way a caller names an executor: as a version, or by any scalar value. -/
inductive ExecutorName
  | version (executor : Executor)
  | scalar (value : Json)

namespace ExecutorName

/-- The version that is named, if it is one. -/
def version? : ExecutorName → Option Executor
  | .version executor => some executor
  | .scalar (.str (.unicode text)) => Executor.ofName? text
  | .scalar _ => none

/-- The name as messages show it. -/
def shown : ExecutorName → String
  | .version executor => executor.shown
  | .scalar (.str text) => text.quote
  | .scalar (.num n) => n.write
  | .scalar (.bool b) => if b then "True" else "False"
  | .scalar .null => "None"
  | .scalar (.arr _) => "[]"
  | .scalar (.obj _) => "\x7b\x7d"

end ExecutorName

/-- The executor to compile for. There is a compiler for the third version only. -/
def Compiler.select (name : ExecutorName) : Except Fault Executor :=
  match name.version? with
  | some .three => .ok .three
  | _ => .error (Refusal.noCompiler name.shown)

/-- The payload that a request asks for. -/
def Request.compile (network : Network) (request : Request) : Traced Bytes := do
  let _ ← Compiler.select (.version request.executor)
  Compiler.compile network request.route request.templates request.sender.text request.wraps

end SwapCompiler
