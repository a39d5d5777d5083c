import SwapCompiler.Proofs.Schema.Route
import SwapCompiler.Request

/-!
# Requests that are written are read back

A request that was read can be written in either style of names and read again, whatever
names, unknown fields, defaults and guises of numbers it was first given in. The second
reading gives the same request, but that a share that was left out is a real number now. Only
amounts that were given as truth values keep a request from being read back, so those are
excluded (`Request.ofJson_toJson_of_ofJson`).
-/

namespace SwapCompiler

open Schema

namespace Request

/-- The two requests have the same parts, and routes that agree. -/
structure Agrees (request other : Request) : Prop where
  route : request.route.Agrees other.route
  templates : request.templates = other.templates
  sender : request.sender = other.sender
  wraps : request.wraps = other.wraps
  executor : request.executor = other.executor

/-- The values given for the amounts of a request, at any depth. -/
def amountsOf (json : Json) : List Json :=
  (json.field? .priceRoute).toList.flatMap PriceRoute.amountsOf

theorem isSettled_of_ofJson {json : Json} {request : Request} (h : ofJson json = .valid request)
    (plain : ∀ amount ∈ amountsOf json, ¬ amount.IsTruth) : request.route.IsSettled := by
  simp only [ofJson, object_eq_valid, Checked.seq_eq_valid, Checked.map_eq_valid,
    required_eq_valid] at h
  obtain ⟨fields, rfl, _, _, ⟨_, _, ⟨_, _, ⟨_, _, ⟨_, ⟨route, given, accepted⟩, rfl⟩, -, rfl⟩, -,
    rfl⟩, -, rfl⟩, -, rfl⟩ := h
  rw [amountsOf, given, Option.toList_some, List.flatMap_singleton] at plain
  exact PriceRoute.isSettled_of_ofJson accepted plain

/-- What is written for a request. -/
def entries (style : NameStyle) (request : Request) : List (FieldName × Json) :=
  [(.priceRoute, request.route.toJson style),
    (.exchangeParams, .arr (request.templates.map (CallTemplate.toJson style))),
    (.sender, .str request.sender.text),
    (.wethCallData, (request.wraps.map (WrapTemplates.toJson style)).getD .null),
    (.executor, .str request.executor.name)]

theorem exists_ofJson_toJson (style : NameStyle) {request : Request}
    (settled : request.route.IsSettled) :
    ∃ again, ofJson (request.toJson style) = .valid again ∧ request.Agrees again := by
  have apart : ((request.entries style).map Prod.fst).Pairwise FieldName.Apart :=
    (by decide : [FieldName.priceRoute, .exchangeParams, .sender, .wethCallData,
      .executor].Pairwise FieldName.Apart)
  obtain ⟨route, accepted, agrees⟩ := PriceRoute.exists_ofJson_toJson style settled
  have templates : list CallTemplate.ofJson (.arr (request.templates.map
      (CallTemplate.toJson style))) = .valid request.templates :=
    list_of_forall fun template _ => template.ofJson_toJson style
  have wraps : nullable WrapTemplates.ofJson
      ((request.wraps.map (WrapTemplates.toJson style)).getD .null) = .valid request.wraps :=
    nullable_of_forall fun wraps _ => ⟨nofun, wraps.ofJson_toJson style⟩
  refine ⟨{ request with route }, ?_, agrees, rfl, rfl, rfl, rfl⟩
  show object _ _ (.obj (Json.written style (request.entries style))) = _
  rw [object, required_written apart (by simp [entries]) accepted,
    required_written apart (by simp [entries]) templates,
    required_written apart (by simp [entries]) (address_text request.sender),
    defaulted_written apart (by simp [entries]) wraps,
    defaulted_written apart (by simp [entries]) (executor_name request.executor)]
  rfl

/-- A request that was read is read again after it was written, in either style, and the two
agree, unless an amount was given as a truth value. -/
theorem ofJson_toJson_of_ofJson {json : Json} {request : Request}
    (h : ofJson json = .valid request) (plain : ∀ amount ∈ amountsOf json, ¬ amount.IsTruth)
    (style : NameStyle) :
    ∃ again, ofJson (request.toJson style) = .valid again ∧ request.Agrees again :=
  exists_ofJson_toJson style (isSettled_of_ofJson h plain)

end Request

namespace Sample

/-- A request under mixed names, with unknown fields, with numbers as texts and as truth
values and a share that is left out. -/
def mixedRequest : Json :=
  .obj [("price_route", .obj [("srcToken", .str token.text), ("dest_token", .str native.text),
      ("srcAmount", .str " 1_000 "), ("dest_amount", .int 999), ("gas", .null),
      ("best_route", .arr [.obj [("legs", .arr [legWithNumbers])],
        .obj [("percent", .bool true), ("legs", .arr [])]])]),
    ("exchangeParams", .arr [.obj [("targetExchange", .str exchange.text),
      ("exchange_data", .str "0x12345678"), ("dexFuncHasRecipient", .int 1),
      ("need_wrap_native", .float 0), ("specialDexFlag", .str "4")]]),
    ("sender", .str exchange.text), ("note", .arr []),
    ("weth_call_data", .obj [("deposit", .obj [("callee", .str wrapper.text),
      ("calldata", .str "0xd0e30db0")])])]

end Sample

namespace Request

theorem ofJson_toJson_of_mixed :
    ∃ request, ofJson Sample.mixedRequest = .valid request ∧
      (∀ amount ∈ amountsOf Sample.mixedRequest, ¬ amount.IsTruth) ∧
      ∃ again, ofJson (request.toJson .plain) = .valid again ∧ request.Agrees again := by
  obtain ⟨request, valid⟩ := Checked.exists_of_isValid
    (by decide +kernel : (ofJson Sample.mixedRequest).isValid = true)
  have plain : ∀ amount ∈ amountsOf Sample.mixedRequest, ¬ amount.IsTruth := by
    decide +kernel
  exact ⟨request, valid, plain, ofJson_toJson_of_ofJson valid plain .plain⟩

end Request

end SwapCompiler
