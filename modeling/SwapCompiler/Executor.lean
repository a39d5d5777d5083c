/-!
# Executor versions

The versions of the on-chain executor contract. Payloads are compiled for the third one
only; the others can be named and given an address.
-/

namespace SwapCompiler

/-- A version of the executor contract. -/
inductive Executor
  | one
  | two
  | three
  deriving DecidableEq, Repr

namespace Executor

/-- All versions, oldest first. -/
def all : List Executor := [.one, .two, .three]

/-- The name of a version in requests, responses and configurations. -/
def name : Executor → String
  | .one => "Executor01"
  | .two => "Executor02"
  | .three => "Executor03"

/-- The version with the given name. -/
def ofName? (text : String) : Option Executor :=
  all.find? fun executor => executor.name == text

/-- A version as messages about it show it. -/
def shown : Executor → String
  | .one => "<Executors.ONE: 'Executor01'>"
  | .two => "<Executors.TWO: 'Executor02'>"
  | .three => "<Executors.THREE: 'Executor03'>"

end Executor

end SwapCompiler
