import SwapCompiler.Fault

/-!
# Call flags

The executor reads a call's flag through two remainders. Modulo four it says whether the
source amount is inserted into the call and whether native value is sent along; modulo
three it says whose balance is checked afterwards.

| flag mod 4 | inserts amount | sends native | | flag mod 3 | balance checked   |
|------------|----------------|--------------|-|------------|-------------------|
| 0          | no             | no           | | 0          | none              |
| 1          | no             | yes          | | 1          | native            |
| 2          | yes            | yes          | | 2          | destination token |
| 3          | yes            | no           | |            |                   |

The remainder of a negative number is not negative.
-/

namespace SwapCompiler

/-- Whose balance the executor checks after a call. -/
inductive BalanceCheck
  | none
  | native
  | destToken
  deriving DecidableEq, Repr

/-- The word for a balance check. -/
def BalanceCheck.name : BalanceCheck → String
  | .none => "none"
  | .native => "native"
  | .destToken => "dest_token"

/-- The flags that the compiler knows. -/
abbrev Flag := Fin 12

namespace Flag

/-- The names of the flags, from zero on. -/
def names : List String :=
  ["ZERO", "ONE", "TWO", "THREE", "FOUR", "FIVE", "SIX", "SEVEN", "EIGHT", "NINE", "TEN",
    "ELEVEN"]

/-- The flag with the given value. -/
def ofInt (value : Int) : Except Fault Flag :=
  if h : 0 ≤ value ∧ value.toNat < 12 then .ok ⟨value.toNat, h.2⟩
  else .error (.unknownFlag value)

/-- Whether the executor inserts the source amount into the call. -/
def insertsAmount (flag : Int) : Bool :=
  flag % 4 == 2 || flag % 4 == 3

/-- Whether the executor sends native value of the source amount with the call. -/
def sendsNative (flag : Int) : Bool :=
  flag % 4 == 1 || flag % 4 == 2

/-- The balance check selected by a flag. -/
def balanceCheck (flag : Int) : BalanceCheck :=
  if flag % 3 = 1 then .native else if flag % 3 = 2 then .destToken else .none

/-- A flag as a number. -/
def toInt (flag : Flag) : Int := flag.val

end Flag

/-- The special ways in which the executor can be asked to run a call. -/
inductive SpecialDex
  | default
  | swapOnBalancerV2
  | sendNative
  | swapOnMakerPsm
  | swapOnSwaapV2Single
  deriving DecidableEq, Repr

namespace SpecialDex

/-- All modes, by their values. -/
def all : List SpecialDex :=
  [.default, .swapOnBalancerV2, .sendNative, .swapOnMakerPsm, .swapOnSwaapV2Single]

/-- The value of a mode in a call header. -/
def value : SpecialDex → UInt8
  | .default => 0
  | .swapOnBalancerV2 => 1
  | .sendNative => 2
  | .swapOnMakerPsm => 3
  | .swapOnSwaapV2Single => 4

/-- The name of a mode. -/
def name : SpecialDex → String
  | .default => "DEFAULT"
  | .swapOnBalancerV2 => "SWAP_ON_BALANCER_V2"
  | .sendNative => "SEND_NATIVE"
  | .swapOnMakerPsm => "SWAP_ON_MAKER_PSM"
  | .swapOnSwaapV2Single => "SWAP_ON_SWAAP_V2_SINGLE"

end SpecialDex

/-- The flags of one leg: of its dex call and of its approval. -/
structure LegFlags where
  dex : Flag
  approve : Flag
  deriving DecidableEq, Repr

end SwapCompiler
