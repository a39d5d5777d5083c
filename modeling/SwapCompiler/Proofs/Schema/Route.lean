import SwapCompiler.Proofs.Amount

/-!
# Legs, routes and templates that are written are read back

Whatever the style of the names, a template or a wrap call is read back as it was written, and
so is a leg or a route whose shares are shares and whose amounts can be read. Only a share
that was left out changes: written, it is the whole number a hundred, and it is read as a real
one (`Route.Agrees`).
-/

namespace SwapCompiler

/-! ## Scalars -/

namespace Schema

theorem address_text (address : Address) :
    Schema.address (.str address.text) = .valid address := by
  rw [Schema.address, dif_pos address.strict]

theorem hexData_text (data : HexData) : hexData (.str data.text) = .valid data := by
  rw [hexData, dif_pos data.strict]

theorem amount_text {text : String} (isAmount : Amount.IsAmount text) :
    amount (.str text) = .valid text :=
  amount_eq_valid.mpr (Amount.check_str_eq_ok.mpr ⟨isAmount, rfl⟩)

theorem percent_float {x : Float} (share : 0 < x ∧ x ≤ 100) : percent (.float x) = .valid x :=
  percent_eq_valid.mpr ⟨rfl, share⟩

theorem byte_toNat (n : UInt8) : byte (.int n.toNat) = .valid n := by
  have small := n.toNat_lt
  have positive : ¬ (n.toNat : Int) < 0 := by omega
  have inside : ¬ 255 < (n.toNat : Int) := by omega
  simp [byte, whole, Json.int, Checked.andThen, positive, inside]

theorem truth_bool (b : Bool) : truth (.bool b) = .valid b := rfl

theorem executor_name (executor : Executor) :
    Schema.executor (.str executor.name) = .valid executor := by
  cases executor <;> rfl

end Schema

open Schema

/-! ## Templates -/

namespace WrapCall

/-- What is written for a wrap call. -/
def entries (call : WrapCall) : List (FieldName × Json) :=
  [(.callee, .str call.callee.text), (.calldata, .str call.data.text)]

theorem ofJson_toJson (style : NameStyle) (call : WrapCall) :
    ofJson (call.toJson style) = .valid call := by
  have apart : (call.entries.map Prod.fst).Pairwise FieldName.Apart :=
    (by decide : [FieldName.callee, .calldata].Pairwise FieldName.Apart)
  show object _ _ (.obj (Json.written style call.entries)) = _
  rw [object, required_written apart (by simp [entries]) (address_text call.callee),
    required_written apart (by simp [entries]) (hexData_text call.data)]
  rfl

end WrapCall

namespace WrapTemplates

/-- What is written for wrap templates. -/
def entries (style : NameStyle) (wraps : WrapTemplates) : List (FieldName × Json) :=
  [(.deposit, (wraps.deposit.map (WrapCall.toJson style)).getD .null),
    (.withdraw, (wraps.withdraw.map (WrapCall.toJson style)).getD .null)]

theorem ofJson_toJson (style : NameStyle) (wraps : WrapTemplates) :
    ofJson (wraps.toJson style) = .valid wraps := by
  have apart : ((wraps.entries style).map Prod.fst).Pairwise FieldName.Apart :=
    (by decide : [FieldName.deposit, .withdraw].Pairwise FieldName.Apart)
  have call (call? : Option WrapCall) :
      nullable WrapCall.ofJson ((call?.map (WrapCall.toJson style)).getD .null) = .valid call? :=
    nullable_of_forall fun call _ => ⟨nofun, call.ofJson_toJson style⟩
  show object _ _ (.obj (Json.written style (wraps.entries style))) = _
  rw [object, defaulted_written apart (by simp [entries]) (call wraps.deposit),
    defaulted_written apart (by simp [entries]) (call wraps.withdraw)]
  rfl

end WrapTemplates

namespace CallTemplate

/-- What is written for a call template. -/
def entries (template : CallTemplate) : List (FieldName × Json) :=
  [(.targetExchange, .str template.target.text), (.exchangeData, .str template.data.text),
    (.dexFuncHasRecipient, .bool template.hasRecipient),
    (.needWrapNative, .bool template.needsWrap),
    (.specialDexFlag, .int template.specialDex.toNat)]

theorem ofJson_toJson (style : NameStyle) (template : CallTemplate) :
    ofJson (template.toJson style) = .valid template := by
  have apart : (template.entries.map Prod.fst).Pairwise FieldName.Apart :=
    (by decide : [FieldName.targetExchange, .exchangeData, .dexFuncHasRecipient,
      .needWrapNative, .specialDexFlag].Pairwise FieldName.Apart)
  show object _ _ (.obj (Json.written style template.entries)) = _
  rw [object, required_written apart (by simp [entries]) (address_text template.target),
    required_written apart (by simp [entries]) (hexData_text template.data),
    defaulted_written apart (by simp [entries]) (truth_bool template.hasRecipient),
    defaulted_written apart (by simp [entries]) (truth_bool template.needsWrap),
    defaulted_written apart (by simp [entries]) (byte_toNat template.specialDex)]
  rfl

end CallTemplate

/-! ## Routes -/

namespace Leg

/-- The leg can be accepted: its share is one, and its amounts can be read. -/
structure IsSettled (leg : Leg) : Prop where
  share : leg.IsShare
  amounts : leg.AmountsFit

theorem isSettled_of_ofJson {json : Json} {leg : Leg} (h : ofJson json = .valid leg)
    (plain : ∀ amount ∈ json.amountFields, ¬ amount.IsTruth) : leg.IsSettled :=
  ⟨(of_ofJson h).2.2, (amountsFit_iff_of_ofJson h).mpr plain⟩

/-- What is written for a leg. -/
def entries (leg : Leg) : List (FieldName × Json) :=
  [(.srcToken, .str leg.srcToken.text), (.destToken, .str leg.destToken.text),
    (.srcAmount, .str leg.srcAmount), (.destAmount, .str leg.destAmount),
    (.percent, .float leg.percent), (.exchange, (leg.exchange.map .str).getD .null)]

theorem ofJson_toJson (style : NameStyle) {leg : Leg} (settled : leg.IsSettled) :
    ofJson (leg.toJson style) = .valid leg := by
  obtain ⟨srcAmount, destAmount⟩ := amountsFit_iff.mp settled.amounts
  have apart : (leg.entries.map Prod.fst).Pairwise FieldName.Apart :=
    (by decide : [FieldName.srcToken, .destToken, .srcAmount, .destAmount, .percent,
      .exchange].Pairwise FieldName.Apart)
  have exchange : nullable text ((leg.exchange.map .str).getD .null) = .valid leg.exchange :=
    nullable_of_forall fun _ _ => ⟨nofun, rfl⟩
  show object _ _ (.obj (Json.written style leg.entries)) = _
  rw [object, required_written apart (by simp [entries]) (address_text leg.srcToken),
    required_written apart (by simp [entries]) (address_text leg.destToken),
    required_written apart (by simp [entries]) (amount_text srcAmount),
    required_written apart (by simp [entries]) (amount_text destAmount),
    required_written apart (by simp [entries]) (percent_float settled.share),
    defaulted_written apart (by simp [entries]) exchange]
  rfl

end Leg

/-- The rational number that is meant, if it is one. -/
def Binary64.value : Binary64 → Option ℚ
  | .finite negative mantissa exponent _ =>
    some ((if negative then -1 else 1) * mantissa * 2 ^ exponent)
  | .infinite _ | .notANumber => none

namespace Number

/-- The rational number that is meant, if it is one. -/
def value : Number → Option ℚ
  | .int n => some n
  | .float x => (Binary64.ofFloat x).value

/-- The two are numbers of the same value. -/
def Agrees (a b : Number) : Prop := ∃ q, a.value = some q ∧ b.value = some q

theorem agrees_of_share {x : Float} (share : 0 < x ∧ x ≤ 100) : (float x).Agrees (float x) := by
  obtain ⟨mantissa, exponent, unpacks⟩ := Binary64.exists_unpacks_of_share share.1 share.2
  have number : ∃ q, (float x).value = some q := by
    rw [value, unpacks.ofFloat_eq]
    exact ⟨_, rfl⟩
  obtain ⟨q, number⟩ := number
  exact ⟨q, number, number⟩

theorem int_agrees_hundred : (int 100).Agrees (float 100) := by
  refine ⟨100, rfl, ?_⟩
  have read : Binary64.ofFloat 100 = .finite false (100 * 2 ^ 46) (-46) false := by
    decide +kernel
  rw [value, read, Binary64.value]
  norm_num

end Number

namespace Route

/-- The two routes have the same legs and shares of the same value. -/
structure Agrees (route other : Route) : Prop where
  percent : route.percent.Agrees other.percent
  legs : route.legs = other.legs

/-- The route can be accepted: its share is one, given or not, and all its legs can be. -/
structure IsSettled (route : Route) : Prop where
  share : route.percent = .int 100 ∨ ∃ x, route.percent = .float x ∧ 0 < x ∧ x ≤ 100
  legs : ∀ leg ∈ route.legs, leg.IsSettled

theorem isSettled_of_ofJson {json : Json} {route : Route} (h : ofJson json = .valid route)
    (plain : ∀ leg ∈ json.listed .legs, ∀ amount ∈ leg.amountFields, ¬ amount.IsTruth) :
    route.IsSettled := by
  simp only [ofJson, object_eq_valid, Checked.seq_eq_valid, Checked.map_eq_valid] at h
  obtain ⟨fields, rfl, _, legs, ⟨percent, share, rfl⟩, accepted, rfl⟩ := h
  refine ⟨?_, fun leg member => ?_⟩
  · obtain ⟨-, rfl⟩ | ⟨value, -, share⟩ := defaulted_eq_valid.mp share
    · exact .inl rfl
    · have given : Number.float <$> Schema.percent value = .valid percent := share
      obtain ⟨x, isPercent, rfl⟩ := Checked.map_eq_valid.mp given
      exact .inr ⟨x, rfl, (percent_eq_valid.mp isPercent).2⟩
  · obtain ⟨value, inside, accepted⟩ := exists_of_mem_listed accepted member
    exact Leg.isSettled_of_ofJson accepted (plain value inside)

/-- What is written for a route. -/
def entries (style : NameStyle) (route : Route) : List (FieldName × Json) :=
  [(.percent, .num route.percent), (.legs, .arr (route.legs.map (Leg.toJson style)))]

/-- A share that was left out is read as a hundred percent. -/
theorem exists_share {route : Route} (settled : route.IsSettled) :
    ∃ number, (Schema.percent (.num route.percent)).map .float = .valid number ∧
      route.percent.Agrees number := by
  obtain hundred | ⟨x, given, share⟩ := settled.share
  · have finite : (Float.ofInt 100).isFinite = true := by decide +kernel
    have real : Schema.real (.num (.int 100)) = .valid 100 := by
      simp only [Schema.real, finite, if_true]
      rfl
    have percent : Schema.percent (.num (.int 100)) = .valid 100 :=
      percent_eq_valid.mpr ⟨real, by decide +kernel, by decide +kernel⟩
    rw [hundred, percent]
    exact ⟨_, rfl, Number.int_agrees_hundred⟩
  · have percent : Schema.percent (.num (.float x)) = .valid x := percent_float share
    rw [given, percent]
    exact ⟨_, rfl, Number.agrees_of_share share⟩

theorem exists_ofJson_toJson (style : NameStyle) {route : Route} (settled : route.IsSettled) :
    ∃ again, ofJson (route.toJson style) = .valid again ∧ route.Agrees again := by
  obtain ⟨number, share, agrees⟩ := exists_share settled
  have apart : ((route.entries style).map Prod.fst).Pairwise FieldName.Apart :=
    (by decide : [FieldName.percent, .legs].Pairwise FieldName.Apart)
  have legs : list Leg.ofJson (.arr (route.legs.map (Leg.toJson style))) = .valid route.legs :=
    list_of_forall fun leg member => Leg.ofJson_toJson style (settled.legs leg member)
  refine ⟨⟨number, route.legs⟩, ?_, agrees, rfl⟩
  show object _ _ (.obj (Json.written style (route.entries style))) = _
  rw [object, defaulted_written apart (by simp [entries]) share,
    defaulted_written apart (by simp [entries]) legs]
  rfl

end Route

namespace PriceRoute

/-- The two priced routes differ in how the shares of their routes are given at most. -/
structure Agrees (route other : PriceRoute) : Prop where
  srcToken : route.srcToken = other.srcToken
  destToken : route.destToken = other.destToken
  srcAmount : route.srcAmount = other.srcAmount
  destAmount : route.destAmount = other.destAmount
  bestRoute : List.Forall₂ Route.Agrees route.bestRoute other.bestRoute

/-- The priced route can be accepted: its amounts can be read, and all its routes can be
accepted. -/
structure IsSettled (route : PriceRoute) : Prop where
  srcAmount : Amount.IsAmount route.srcAmount
  destAmount : Amount.IsAmount route.destAmount
  bestRoute : ∀ candidate ∈ route.bestRoute, candidate.IsSettled

/-- The values given for the amounts of a priced route and of the legs of its routes. -/
def amountsOf (json : Json) : List Json :=
  json.amountFields ++
    (json.listed .bestRoute).flatMap fun route =>
      (route.listed .legs).flatMap Json.amountFields

theorem isSettled_of_ofJson {json : Json} {route : PriceRoute} (h : ofJson json = .valid route)
    (plain : ∀ amount ∈ amountsOf json, ¬ amount.IsTruth) : route.IsSettled := by
  simp only [amountsOf, List.mem_append, List.mem_flatMap] at plain
  simp only [ofJson, object_eq_valid, Checked.seq_eq_valid, Checked.map_eq_valid,
    required_eq_valid, amount_eq_valid] at h
  obtain ⟨fields, rfl, _, routes, ⟨_, _, ⟨_, _, ⟨_, _, ⟨_, -, rfl⟩, -, rfl⟩,
    ⟨src, srcGiven, srcKept⟩, rfl⟩, ⟨dest, destGiven, destKept⟩, rfl⟩, accepted, rfl⟩ := h
  obtain ⟨srcAmount, destAmount⟩ :=
    (Json.isAmount_iff_of_fields srcGiven destGiven srcKept destKept).mpr
      fun amount member => plain amount (.inl member)
  refine ⟨srcAmount, destAmount, fun candidate member => ?_⟩
  obtain ⟨value, inside, accepted⟩ := exists_of_mem_listed accepted member
  exact Route.isSettled_of_ofJson accepted fun leg listed amount given =>
    plain amount (.inr ⟨value, inside, leg, listed, given⟩)

/-- What is written for a priced route. -/
def entries (style : NameStyle) (route : PriceRoute) : List (FieldName × Json) :=
  [(.srcToken, .str route.srcToken.text), (.destToken, .str route.destToken.text),
    (.srcAmount, .str route.srcAmount), (.destAmount, .str route.destAmount),
    (.bestRoute, .arr (route.bestRoute.map (Route.toJson style)))]

theorem exists_ofJson_toJson (style : NameStyle) {route : PriceRoute}
    (settled : route.IsSettled) :
    ∃ again, ofJson (route.toJson style) = .valid again ∧ route.Agrees again := by
  have apart : ((route.entries style).map Prod.fst).Pairwise FieldName.Apart :=
    (by decide : [FieldName.srcToken, .destToken, .srcAmount, .destAmount,
      .bestRoute].Pairwise FieldName.Apart)
  obtain ⟨routes, accepted, agree⟩ := exists_list_of_forall fun candidate member =>
    Route.exists_ofJson_toJson style (settled.bestRoute candidate member)
  refine ⟨{ route with bestRoute := routes }, ?_, rfl, rfl, rfl, rfl, agree⟩
  show object _ _ (.obj (Json.written style (route.entries style))) = _
  rw [object, required_written apart (by simp [entries]) (address_text route.srcToken),
    required_written apart (by simp [entries]) (address_text route.destToken),
    required_written apart (by simp [entries]) (amount_text settled.srcAmount),
    required_written apart (by simp [entries]) (amount_text settled.destAmount),
    defaulted_written apart (by simp [entries]) accepted]
  rfl

end PriceRoute

end SwapCompiler
