import SwapCompiler.Main
import SwapCompiler.Proofs.Schema.Route
import SwapCompiler.Service

/-!
# What the service works with

The configuration of an environment with strict addresses can be read, and the service keeps
that configuration, whatever messages it answers. A payload for an executor of it makes a
response of the right form. A message that asks for a payload, is short enough and holds JSON
is answered by what `Service.answerJson` makes of its body.
-/

namespace SwapCompiler

/-! ## The configuration -/

/-- The addresses that the environment gives have the strict form. -/
def Environment.IsStrict (environment : Environment) : Prop :=
  ∀ name ∈ CommandLine.environmentNames, ∀ text, environment.lookup name = some text →
    isStrictAddress text = true

instance (environment : Environment) : Decidable environment.IsStrict :=
  decidable_of_iff
    (∀ name ∈ CommandLine.environmentNames, (environment.lookup name).all isStrictAddress = true)
    (by simp only [Environment.IsStrict, Option.all_eq_true])

theorem Environment.isStrictAddress_get {environment : Environment} (strict : environment.IsStrict)
    {name default : String} (known : name ∈ CommandLine.environmentNames)
    (standard : isStrictAddress default = true) :
    isStrictAddress (environment.get name default) = true := by
  rw [Environment.get]
  cases given : environment.lookup name with
  | none => exact standard
  | some text => exact strict name known text given

namespace Network

/-- Strict addresses make a configuration, with the third executor at a strict address. -/
theorem exists_make {wrapped native receiver third : String}
    (strictWrapped : isStrictAddress wrapped = true) (strictNative : isStrictAddress native = true)
    (strictReceiver : isStrictAddress receiver = true)
    (strictThird : isStrictAddress third = true) :
    ∃ network address, make wrapped native receiver [(Executor.three.name, third)] = .ok network ∧
      network.executorAddress .three = .ok address ∧ isStrictAddress address = true := by
  let network : Network := ⟨Address.normalize wrapped, Address.normalize native,
    Address.normalize receiver, [(.three, Address.normalize third)]⟩
  have executor : checkExecutor Executor.three.name third =
      .ok (.three, Address.normalize third) := by
    rw [checkExecutor, Address.check_of_strict strictThird]
    rfl
  have made : make wrapped native receiver [(Executor.three.name, third)] = .ok network := by
    simp only [make, Address.check_of_strict strictWrapped, Address.check_of_strict strictNative,
      Address.check_of_strict strictReceiver, Outcome.ok_bind, List.mapM_cons, List.mapM_nil,
      executor]
    rfl
  exact ⟨network, Address.normalize third, made, rfl,
    Address.isStrictAddress_normalize strictThird⟩

theorem exists_ofEnvironment {environment : Environment} (strict : environment.IsStrict) :
    ∃ network address, ofEnvironment environment = .ok network ∧
      network.executorAddress .three = .ok address ∧ isStrictAddress address = true :=
  exists_make (environment.isStrictAddress_get strict (by decide) (by decide))
    (environment.isStrictAddress_get strict (by decide) (by decide))
    (environment.isStrictAddress_get strict (by decide) (by decide))
    (environment.isStrictAddress_get strict (by decide) (by decide))

end Network

/-! ## Responses -/

namespace Response

open Schema

/-- What is checked of a response. -/
def entries (bytecode : String) (executor : Executor) (address : String) :
    List (FieldName × Json) :=
  [(.bytecode, .str bytecode), (.executor, .str executor.name), (.executorAddress, .str address)]

/-- A payload for an executor at a strict address makes a response. -/
theorem make_eq_valid (payload : Bytes) (executor : Executor) {address : String}
    (strict : isStrictAddress address = true) :
    make payload executor address =
      .valid ⟨⟨Hex.encode payload, Hex.isStrict_encode payload⟩, executor, ⟨address, strict⟩⟩ := by
  have apart : ((entries (Hex.encode payload) executor address).map Prod.fst).Pairwise
      FieldName.Apart :=
    (by decide : [FieldName.bytecode, .executor, .executorAddress].Pairwise FieldName.Apart)
  rw [make, ofJson]
  show object _ _ (.obj (Json.written .plain (entries (Hex.encode payload) executor address))) = _
  rw [object, required_written apart (by simp [entries])
      (hexData_text ⟨Hex.encode payload, Hex.isStrict_encode payload⟩),
    required_written apart (by simp [entries]) (executor_name executor),
    required_written apart (by simp [entries]) (address_text ⟨address, strict⟩)]
  rfl

end Response

/-! ## Bodies -/

namespace Json.Encoding

theorem ne_zero_of_mem_utf8EncodeChar {c : Char} (some : c ≠ '\x00') {byte : UInt8}
    (member : byte ∈ String.utf8EncodeChar c) : byte ≠ 0 := by
  have positive : c.val.toNat ≠ 0 := fun zero => some (Char.toNat_inj.mp zero)
  have nonzero {n : Nat} (low : 0 < n % 256) : UInt8.ofNat n ≠ 0 := by
    intro zero
    have same := congrArg UInt8.toNat zero
    rw [UInt8.toNat_ofNat'] at same
    exact absurd same (Nat.pos_iff_ne_zero.mp low)
  unfold String.utf8EncodeChar at member
  dsimp only at member
  split at member
  · obtain rfl := List.mem_singleton.mp member
    exact nonzero (by omega)
  · split at member
    · simp only [List.mem_cons, List.not_mem_nil, or_false] at member
      obtain rfl | rfl := member <;> exact nonzero (by omega)
    · split at member
      · simp only [List.mem_cons, List.not_mem_nil, or_false] at member
        obtain rfl | rfl | rfl := member <;> exact nonzero (by omega)
      · simp only [List.mem_cons, List.not_mem_nil, or_false] at member
        obtain rfl | rfl | rfl | rfl := member <;> exact nonzero (by omega)

/-- Bytes among which there is no zero are those of UTF-8. -/
theorem detect_of_ne_zero {bytes : Bytes} (nonzero : ∀ byte ∈ bytes, byte ≠ 0) :
    detect bytes = .utf8 := by
  unfold detect
  split <;> simp_all

theorem decode?_of_ne_zero {text : String} (some : ∀ c ∈ text.toList, c ≠ '\x00') :
    decode? text = Option.some ((withoutMark text.toList).map .char) := by
  have bytes : text.toUTF8.data.toList = text.toList.flatMap String.utf8EncodeChar := by
    conv_lhs => rw [← String.ofList_toList (s := text)]
    rw [String.toUTF8, String.toByteArray_ofList, List.utf8Encode, List.data_toByteArray]
  have nonzero : ∀ byte ∈ text.toUTF8.data.toList, byte ≠ 0 := by
    intro byte member
    rw [bytes] at member
    obtain ⟨c, inside, member⟩ := List.mem_flatMap.mp member
    exact ne_zero_of_mem_utf8EncodeChar (some c inside) member
  simp only [decode?, detect_of_ne_zero nonzero]

end Json.Encoding

/-- A text that a file can hold makes a body of the same document. -/
theorem Service.readBody_of_read {text : String} {document : Json}
    (read : Json.read text = .ok document) (some : ∀ c ∈ text.toList, c ≠ '\x00') :
    readBody text = .ok document := by
  have unmarked : Json.Encoding.withoutMark text.toList = text.toList := by
    unfold Json.Encoding.withoutMark
    split
    · rename_i rest form
      rw [Json.read, form] at read
      cases read
    · rfl
  simp only [readBody, Json.Encoding.decode?_of_ne_zero some, unmarked]
  rw [← Json.read, read]

namespace Service

/-! ## The configuration that is kept -/

variable {environment : Environment}

/-- The configuration that is kept, if one is, is that of the environment. -/
def Cache.IsOf (cache : Cache) (environment : Environment) : Prop :=
  ∀ network, cache = some network → Network.ofEnvironment environment = .ok network

theorem Cache.resolve_eq {cache : Cache} (isOf : cache.IsOf environment) :
    cache.resolve environment = Network.ofEnvironment environment := by
  cases cache with
  | none => rfl
  | some network => exact (isOf network rfl).symm

theorem isOf_withNetwork {cache : Cache} (isOf : cache.IsOf environment)
    (reply : Network → Reply) : (withNetwork cache environment reply).2.IsOf environment := by
  rw [withNetwork, Cache.resolve_eq isOf]
  cases read : Network.ofEnvironment environment with
  | error fault => exact nofun
  | ok network =>
    rintro _ ⟨⟩
    exact read

theorem isOf_bytecode {cache : Cache} (isOf : cache.IsOf environment) (message : Message) :
    (bytecode cache environment message).2.IsOf environment := by
  unfold bytecode
  split
  · exact isOf_withNetwork isOf _
  · split
    · exact isOf_withNetwork isOf _
    · split
      · exact isOf
      · exact isOf_withNetwork isOf _

theorem isOf_route {cache : Cache} (isOf : cache.IsOf environment) (message : Message) :
    (route cache environment message).2.IsOf environment := by
  unfold route
  split
  · exact isOf
  · split
    · exact isOf
    · split
      · exact isOf_bytecode isOf message
      · exact isOf

/-- No message makes the service keep another configuration than that of the environment. -/
theorem isOf_handle {cache : Cache} (isOf : cache.IsOf environment) (message : Message) :
    (handle cache environment message).2.IsOf environment := by
  unfold handle
  dsimp only
  split
  · exact isOf
  · split
    · exact isOf
    · exact isOf_route isOf message.normalize

/-- The configuration that is kept after messages, from the start of the service on. -/
def kept (environment : Environment) (messages : List Message) : Cache :=
  messages.foldl (fun cache message => (handle cache environment message).2) none

theorem isOf_kept (messages : List Message) : (kept environment messages).IsOf environment := by
  have run (cache : Cache) (isOf : cache.IsOf environment) :
      (messages.foldl (fun cache message => (handle cache environment message).2) cache).IsOf
        environment := by
    induction messages generalizing cache with
    | nil => exact isOf
    | cons message rest ih => exact ih _ (isOf_handle isOf message)
  exact run none nofun

/-! ## Messages that ask for a payload -/

/-- The message asks for a payload, is short enough and holds the document. -/
structure Message.Holds (message : Message) (document : Json) : Prop where
  method : message.normalize.method = "POST"
  endpoint : Endpoint.ofPath? message.path = some .bytecode
  length : ∃ length, message.claimedLength = .ok length ∧ length ≤ Message.maxLength
  json : message.holdsJson = true
  body : readBody message.body = .ok document

theorem Message.Holds.isEmpty_body {message : Message} {document : Json}
    (holds : message.Holds document) : message.body.isEmpty = false := by
  by_contra none
  have body := holds.body
  rw [Bool.not_eq_false, String.isEmpty_iff] at none
  rw [none] at body
  cases body

/-- Such a message gets the answer to its document. -/
theorem handle_of_holds {cache : Cache} (isOf : cache.IsOf environment) {network : Network}
    (configured : Network.ofEnvironment environment = .ok network) {message : Message}
    {document : Json} (holds : message.Holds document) :
    (handle cache environment message).1 = answerJson network document := by
  obtain ⟨length, claimed, short⟩ := holds.length
  have claimed' : message.normalize.claimedLength = .ok length := claimed
  have endpoint : Endpoint.ofPath? message.normalize.path = some .bytecode := holds.endpoint
  have some' : message.normalize.body.isEmpty = false := holds.isEmpty_body
  have json : message.normalize.holdsJson = true := holds.json
  have body : readBody message.normalize.body = .ok document := holds.body
  have fits : ¬ (Message.maxLength : Int) < length := Int.not_lt.mpr short
  have asked : ¬ message.normalize.method ≠ Endpoint.bytecode.method :=
    not_not_intro holds.method
  have notHead : message.normalize.method ≠ "HEAD" := by
    rw [holds.method]
    decide
  simp only [handle, claimed', if_neg fits, route, endpoint, if_neg asked, bytecode, some', json,
    body, withNetwork, Cache.resolve_eq isOf, configured, if_neg notHead, Bool.not_true,
    Bool.false_eq_true, if_false]

end Service

end SwapCompiler
