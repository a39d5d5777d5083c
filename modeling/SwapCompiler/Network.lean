import SwapCompiler.Address

/-!
# Network configuration

The addresses a payload depends on: the wrapped native token, the placeholder that routes
use for the native asset, the receiver of leftover output, and the deployed executors.
All of them are normalized when the configuration is made, and the first one that is no
address is reported. A configuration is made from its parts or from environment variables.
-/

namespace SwapCompiler

/-- Environment variables and their values. -/
abbrev Environment := List (String × String)

/-- The value of a variable, or what it stands for when it is not set. -/
def Environment.get (environment : Environment) (name default : String) : String :=
  (environment.lookup name).getD default

/-- The addresses of a network, normalized. -/
structure Network where
  wrappedNative : String
  native : String
  receiver : String
  executors : List (Executor × String)
  deriving DecidableEq

namespace Network

/-! ## Well-known addresses -/

/-- The placeholder for the native asset. -/
def nativePlaceholder : String := "0xeeeeeeeeeeeeeeeeeeeeeeeeeeeeeeeeeeeeeeee"

/-- The wrapped native token. -/
def wrappedNativeToken : String := "0xc02aaa39b223fe8d0a0e5c4f27ead9083c756cc2"

/-- The contract that receives leftover output. -/
def leftoverReceiver : String := "0x6a000f20005980200259b80c5102003040001068"

/-- The third executor. -/
def thirdExecutor : String := "0x000010036c0190e009a000d0fc3541100a07380a"

/-- The executors that are deployed, by name. -/
def deployedExecutors : List (String × String) := [(Executor.three.name, thirdExecutor)]

/-! ## Making a configuration -/

/-- A named executor and its address. -/
def checkExecutor (name address : String) : Except Fault (Executor × String) :=
  match Executor.ofName? name with
  | none => .error (.unknownExecutor name)
  | some executor => (Address.check address).map fun address => (executor, address)

/-- The configuration with the given addresses. -/
def make (wrappedNative native receiver : String) (executors : List (String × String)) :
    Except Fault Network := do
  let wrappedNative ← Address.check wrappedNative
  let native ← Address.check native
  let receiver ← Address.check receiver
  let executors ← executors.mapM fun (name, address) => checkExecutor name address
  return ⟨wrappedNative, native, receiver, executors⟩

/-- The configuration given by environment variables; what is not set has its well-known
address. -/
def ofEnvironment (environment : Environment) : Except Fault Network :=
  make (environment.get "EXECUTOR_WRAPPED_NATIVE_TOKEN" wrappedNativeToken)
    (environment.get "EXECUTOR_NATIVE_TOKEN" nativePlaceholder)
    (environment.get "EXECUTOR_RECEIVER_ADDRESS" leftoverReceiver)
    [(Executor.three.name, environment.get "EXECUTOR_03_ADDRESS" thirdExecutor)]

/-! ## Looking things up -/

/-- Whether a token is the native asset. -/
def isNative (network : Network) (token : String) : Bool :=
  Address.normalize token == network.native

/-- The address of an executor. -/
def executorAddress (network : Network) (executor : Executor) : Except Fault String :=
  match network.executors.lookup executor with
  | some address => .ok address
  | none => .error (Refusal.noAddress executor)

end Network

end SwapCompiler
