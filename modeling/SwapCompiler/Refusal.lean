import SwapCompiler.Bytes
import SwapCompiler.Executor
import SwapCompiler.Hex

/-!
# Why a route is refused

A refusal is the caller's fault: a route, a template or a position that cannot be
compiled. Refusals form a small family tree, `Refusal.Kind`, whose names are part of the
answers of the service. Nothing is retried and no partial payload leaves the compiler.
-/

namespace SwapCompiler

/-- The family tree of refusals. -/
inductive Refusal.Kind
  | any
  | precondition
  | misalignedTemplates
  | emptyRoute
  | missingDeposit
  | encoding
  | patternNotFound
  | headerOverflow
  | unsupportedExecutor
  deriving DecidableEq, Repr

namespace Refusal.Kind

/-- All kinds, each after its parent. -/
def all : List Kind :=
  [.any, .precondition, .misalignedTemplates, .emptyRoute, .missingDeposit, .encoding,
    .patternNotFound, .headerOverflow, .unsupportedExecutor]

/-- The name of a kind in answers. -/
def name : Kind → String
  | .any => "BytecodeBuilderError"
  | .precondition => "PreconditionError"
  | .misalignedTemplates => "MisalignedTemplatesError"
  | .emptyRoute => "EmptyRouteError"
  | .missingDeposit => "MissingWrapTemplateError"
  | .encoding => "CallDataEncodingError"
  | .patternNotFound => "PatternNotFoundError"
  | .headerOverflow => "HeaderOverflowError"
  | .unsupportedExecutor => "UnsupportedExecutorError"

/-- The kind with the given name. -/
def ofName? (text : String) : Option Kind :=
  all.find? fun kind => kind.name == text

/-- The kinds above a kind, nearest first. -/
def ancestors : Kind → List Kind
  | .any => []
  | .precondition | .encoding | .headerOverflow | .unsupportedExecutor => [.any]
  | .misalignedTemplates | .emptyRoute | .missingDeposit => [.precondition, .any]
  | .patternNotFound => [.encoding, .any]

/-- A kind and all kinds above it. -/
def family (kind : Kind) : List Kind :=
  kind :: kind.ancestors

end Refusal.Kind

/-- A reason to refuse a route. -/
inductive Refusal
  /-- The route has no legs. -/
  | emptyRoute
  /-- There are not as many call templates as legs. -/
  | misalignedTemplates (templates legs : Nat)
  /-- A leg sells the native asset through the wrapped token, and no deposit is given. -/
  | missingDeposit (leg : Nat)
  /-- A pattern that has to be patched does not occur in the call data. -/
  | patternNotFound (label : String) (pattern : Bytes)
  /-- The token whose balance is checked stands too early to end a 32-byte word. -/
  | outsideWord (index : Nat)
  /-- A value does not fit its header field. -/
  | headerOverflow (field : String) (value width : Int)
  /-- No payload is compiled for the executor, given as the message shows it. -/
  | noCompiler (executor : String)
  /-- No address is configured for the executor. -/
  | noAddress (executor : Executor)
  deriving DecidableEq, Repr

namespace Refusal

/-- The kind of a refusal. -/
def kind : Refusal → Kind
  | .emptyRoute => .emptyRoute
  | .misalignedTemplates .. => .misalignedTemplates
  | .missingDeposit _ => .missingDeposit
  | .patternNotFound .. => .patternNotFound
  | .outsideWord _ => .encoding
  | .headerOverflow .. => .headerOverflow
  | .noCompiler _ | .noAddress _ => .unsupportedExecutor

/-- The wording of a refusal. -/
def message : Refusal → String
  | .emptyRoute => "Price route has no legs to compile"
  | .misalignedTemplates templates legs =>
    s!"Got {templates} call templates for {legs} legs"
  | .missingDeposit leg => s!"Leg {leg} needs wrapping native but no deposit call was given"
  | .patternNotFound label pattern =>
    label ++ " (" ++ Hex.encode pattern ++ ") not found in call data"
  | .outsideWord index => s!"balance check token at byte {index} is not inside a 32-byte word"
  | .headerOverflow field value width => s!"{field}={value} does not fit in {width} bytes"
  | .noCompiler executor => "No bytecode builder for executor " ++ executor
  | .noAddress executor => "No address configured for " ++ executor.name

end Refusal

end SwapCompiler
