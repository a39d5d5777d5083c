import SwapCompiler.Route
import SwapCompiler.Schema.Scalar

/-!
# Routes and templates as JSON

How legs, routes, priced routes, call templates and wrap calls are read from JSON and
written to it. Unknown fields are ignored. Writing puts every field, under the names of
the wire or the names in full; a share that was left out is written as the whole number a
hundred.
-/

namespace SwapCompiler

/-- The names used when a value is written. -/
inductive NameStyle
  | wire
  | plain
  deriving DecidableEq, Repr

/-- The name of a field in a style. -/
def FieldName.inStyle (name : FieldName) : NameStyle → String
  | .wire => name.wire
  | .plain => name.plain

namespace FieldName

/-! ## Field names -/

/-- The token sold. -/
def srcToken : FieldName := ⟨"srcToken", "src_token"⟩

/-- The token bought. -/
def destToken : FieldName := ⟨"destToken", "dest_token"⟩

/-- The amount sold. -/
def srcAmount : FieldName := ⟨"srcAmount", "src_amount"⟩

/-- The amount bought. -/
def destAmount : FieldName := ⟨"destAmount", "dest_amount"⟩

/-- A share of the input. -/
def percent : FieldName := .one "percent"

/-- The name of an exchange. -/
def exchange : FieldName := .one "exchange"

/-- The legs of a route. -/
def legs : FieldName := .one "legs"

/-- The candidate routes. -/
def bestRoute : FieldName := ⟨"bestRoute", "best_route"⟩

/-- The contract of a dex call. -/
def targetExchange : FieldName := ⟨"targetExchange", "target_exchange"⟩

/-- The call data of a dex call. -/
def exchangeData : FieldName := ⟨"exchangeData", "exchange_data"⟩

/-- Whether a dex call has a recipient. -/
def dexFuncHasRecipient : FieldName := ⟨"dexFuncHasRecipient", "dex_func_has_recipient"⟩

/-- Whether a leg needs wrapping. -/
def needWrapNative : FieldName := ⟨"needWrapNative", "need_wrap_native"⟩

/-- The special mode of a dex call. -/
def specialDexFlag : FieldName := ⟨"specialDexFlag", "special_dex_flag"⟩

/-- The contract of a wrap call. -/
def callee : FieldName := .one "callee"

/-- The call data of a wrap call. -/
def calldata : FieldName := .one "calldata"

/-- The deposit call. -/
def deposit : FieldName := .one "deposit"

/-- The withdraw call. -/
def withdraw : FieldName := .one "withdraw"

end FieldName

open Schema

/-! ## Routes -/

/-- Reads a leg. -/
def Leg.ofJson : Json → Checked Leg :=
  object "Leg" fun fields =>
    Leg.mk <$> required fields .srcToken address <*> required fields .destToken address
      <*> required fields .srcAmount amount <*> required fields .destAmount amount
      <*> required fields .percent Schema.percent
      <*> defaulted fields .exchange none (nullable text)

/-- Writes a leg. -/
def Leg.toJson (style : NameStyle) (leg : Leg) : Json :=
  .obj [(FieldName.srcToken.inStyle style, .str leg.srcToken.text),
    (FieldName.destToken.inStyle style, .str leg.destToken.text),
    (FieldName.srcAmount.inStyle style, .str leg.srcAmount),
    (FieldName.destAmount.inStyle style, .str leg.destAmount),
    (FieldName.percent.inStyle style, .float leg.percent),
    (FieldName.exchange.inStyle style, (leg.exchange.map .str).getD .null)]

/-- Reads a route. -/
def Route.ofJson : Json → Checked Route :=
  object "Route" fun fields =>
    Route.mk <$> defaulted fields .percent (.int 100) (fun json => (Schema.percent json).map .float)
      <*> defaulted fields .legs [] (list Leg.ofJson)

/-- Writes a route. -/
def Route.toJson (style : NameStyle) (route : Route) : Json :=
  .obj [(FieldName.percent.inStyle style, .num route.percent),
    (FieldName.legs.inStyle style, .arr (route.legs.map (Leg.toJson style)))]

/-- Reads a priced route. -/
def PriceRoute.ofJson : Json → Checked PriceRoute :=
  object "PriceRoute" fun fields =>
    PriceRoute.mk <$> required fields .srcToken address <*> required fields .destToken address
      <*> required fields .srcAmount amount <*> required fields .destAmount amount
      <*> defaulted fields .bestRoute [] (list Route.ofJson)

/-- Writes a priced route. -/
def PriceRoute.toJson (style : NameStyle) (route : PriceRoute) : Json :=
  .obj [(FieldName.srcToken.inStyle style, .str route.srcToken.text),
    (FieldName.destToken.inStyle style, .str route.destToken.text),
    (FieldName.srcAmount.inStyle style, .str route.srcAmount),
    (FieldName.destAmount.inStyle style, .str route.destAmount),
    (FieldName.bestRoute.inStyle style, .arr (route.bestRoute.map (Route.toJson style)))]

/-! ## Templates -/

/-- Reads a call template. -/
def CallTemplate.ofJson : Json → Checked CallTemplate :=
  object "LegCallTemplate" fun fields =>
    CallTemplate.mk <$> required fields .targetExchange address
      <*> required fields .exchangeData hexData
      <*> defaulted fields .dexFuncHasRecipient true truth
      <*> defaulted fields .needWrapNative false truth
      <*> defaulted fields .specialDexFlag 0 byte

/-- Writes a call template. -/
def CallTemplate.toJson (style : NameStyle) (template : CallTemplate) : Json :=
  .obj [(FieldName.targetExchange.inStyle style, .str template.target.text),
    (FieldName.exchangeData.inStyle style, .str template.data.text),
    (FieldName.dexFuncHasRecipient.inStyle style, .bool template.hasRecipient),
    (FieldName.needWrapNative.inStyle style, .bool template.needsWrap),
    (FieldName.specialDexFlag.inStyle style, .int template.specialDex.toNat)]

/-- Reads a wrap call. -/
def WrapCall.ofJson : Json → Checked WrapCall :=
  object "WrapCall" fun fields =>
    WrapCall.mk <$> required fields .callee address <*> required fields .calldata hexData

/-- Writes a wrap call. -/
def WrapCall.toJson (style : NameStyle) (call : WrapCall) : Json :=
  .obj [(FieldName.callee.inStyle style, .str call.callee.text),
    (FieldName.calldata.inStyle style, .str call.data.text)]

/-- Reads wrap templates. -/
def WrapTemplates.ofJson : Json → Checked WrapTemplates :=
  object "WrapUnwrapTemplates" fun fields =>
    WrapTemplates.mk <$> defaulted fields .deposit none (nullable WrapCall.ofJson)
      <*> defaulted fields .withdraw none (nullable WrapCall.ofJson)

/-- Writes wrap templates. -/
def WrapTemplates.toJson (style : NameStyle) (wraps : WrapTemplates) : Json :=
  .obj [(FieldName.deposit.inStyle style, (wraps.deposit.map (WrapCall.toJson style)).getD .null),
    (FieldName.withdraw.inStyle style, (wraps.withdraw.map (WrapCall.toJson style)).getD .null)]

end SwapCompiler
