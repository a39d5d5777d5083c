import SwapCompiler.Proofs.Contents
import SwapCompiler.Proofs.Reading.Compiler

/-!
# Letter case

Addresses and byte strings keep the letter case they were given in. Nothing that is read of them
depends on it: lowering the case of a leg, a template or a wrap call leaves its reading as it is,
and a configuration is made in lower case anyway. Requests that are the same in lower case
therefore end alike (`Compiler.outcome_of_lowered`).
-/

namespace SwapCompiler

/-- Rows that are the same in lower case are read alike, if their members are. -/
theorem map_eq_of_lowered {α β : Type} {lowered : α → α} {read : α → β}
    (blind : ∀ a, read (lowered a) = read a) {xs ys : List α}
    (same : xs.map lowered = ys.map lowered) : xs.map read = ys.map read := by
  have factors (xs : List α) : (xs.map lowered).map read = xs.map read := by
    rw [List.map_map]
    exact List.map_congr_left fun a _ => blind a
  rw [← factors xs, same, factors]

/-! ## Texts in lower case -/

/-- The address in lower case. -/
def Address.lowered (address : Address) : Address where
  text := Text.lower address.text
  strict := by
    rw [← normalize_of_strict address.strict]
    exact isStrictAddress_normalize address.strict

theorem Address.normalize_lowered (address : Address) :
    normalize address.lowered.text = normalize address.text := by
  have text : address.lowered.text = normalize address.text :=
    (normalize_of_strict address.strict).symm
  rw [text, normalize_normalize address.strict]

theorem Address.bytes_lowered (address : Address) : address.lowered.bytes = address.bytes :=
  bytes_eq_of_normalize address.normalize_lowered

theorem Address.check_lowered (address : Address) :
    check address.lowered.text = check address.text := by
  rw [check_of_strict address.lowered.strict, check_of_strict address.strict, normalize_lowered]

namespace HexData

/-- The parts of a byte string. -/
theorem exists_pairs (data : HexData) :
    ∃ pairs, data.text.toList = '0' :: 'x' :: pairs ∧ Hex.isPairs pairs = true := by
  have strict := data.strict
  unfold Hex.isStrict at strict
  split at strict
  · rename_i pairs form
    exact ⟨pairs, form, strict⟩
  · cases strict

theorem toList_lower {data : HexData} {pairs : List Char}
    (form : data.text.toList = '0' :: 'x' :: pairs) (isPairs : Hex.isPairs pairs = true) :
    (Text.lower data.text).toList = '0' :: 'x' :: pairs.map Text.smallLetter :=
  Text.toList_lower form (Hex.isPairs_iff.mp isPairs).2

/-- The byte string in lower case. -/
def lowered (data : HexData) : HexData where
  text := Text.lower data.text
  strict := by
    obtain ⟨pairs, form, isPairs⟩ := data.exists_pairs
    simp only [Hex.isStrict, toList_lower form isPairs, Hex.isPairs_map_smallLetter isPairs]

theorem content_lowered (data : HexData) : data.lowered.content = data.content := by
  obtain ⟨pairs, form, isPairs⟩ := data.exists_pairs
  simp only [content, lowered, toList_lower form isPairs, form, List.drop_succ_cons,
    List.drop_zero, Hex.pairs_map_smallLetter isPairs]

end HexData

/-! ## Requests in lower case -/

/-- The leg with its tokens in lower case. -/
def Leg.lowered (leg : Leg) : Leg :=
  { leg with srcToken := leg.srcToken.lowered, destToken := leg.destToken.lowered }

theorem Leg.reading_lowered (leg : Leg) : leg.lowered.reading = leg.reading := by
  simp only [reading, lowered, Address.normalize_lowered]

/-- The template with its target and its call data in lower case. -/
def CallTemplate.lowered (template : CallTemplate) : CallTemplate :=
  { template with target := template.target.lowered, data := template.data.lowered }

theorem CallTemplate.reading_lowered (template : CallTemplate) :
    template.lowered.reading = template.reading := by
  simp only [reading, lowered, Address.bytes_lowered, HexData.content_lowered]

/-- The call with its target and its call data in lower case. -/
def WrapCall.lowered (call : WrapCall) : WrapCall := ⟨call.callee.lowered, call.data.lowered⟩

theorem WrapCall.reading_lowered (call : WrapCall) : call.lowered.reading = call.reading := by
  simp only [reading, lowered, Address.bytes_lowered, HexData.content_lowered]

/-- Optional calls that are the same in lower case are read alike. -/
theorem WrapCall.map_reading_of_lowered {call? call?' : Option WrapCall}
    (same : call?.map lowered = call?'.map lowered) : call?.map reading = call?'.map reading := by
  have factors (call? : Option WrapCall) : (call?.map lowered).map reading = call?.map reading := by
    rw [Option.map_map]
    exact Option.map_congr fun call _ => call.reading_lowered
  rw [← factors call?, same, factors]

namespace WrapTemplates

/-- Both calls in lower case. -/
def lowered (wraps : WrapTemplates) : WrapTemplates :=
  ⟨wraps.deposit.map WrapCall.lowered, wraps.withdraw.map WrapCall.lowered⟩

theorem deposit?_lowered (wraps : Option WrapTemplates) :
    deposit? (wraps.map lowered) = (deposit? wraps).map WrapCall.lowered := by
  cases wraps <;> rfl

theorem withdraw?_lowered (wraps : Option WrapTemplates) :
    withdraw? (wraps.map lowered) = (withdraw? wraps).map WrapCall.lowered := by
  cases wraps <;> rfl

end WrapTemplates

namespace Network

/-- The parts of a configuration, spelled in the strict form. -/
structure Spelling where
  wrappedNative : Address
  native : Address
  receiver : Address
  executors : List (String × Address)

namespace Spelling

/-- The configuration that is made of them. -/
def network (spelling : Spelling) : Except Fault Network :=
  make spelling.wrappedNative.text spelling.native.text spelling.receiver.text
    (spelling.executors.map fun executor => (executor.1, executor.2.text))

/-- All addresses in lower case. -/
def lowered (spelling : Spelling) : Spelling where
  wrappedNative := spelling.wrappedNative.lowered
  native := spelling.native.lowered
  receiver := spelling.receiver.lowered
  executors := spelling.executors.map fun executor => (executor.1, executor.2.lowered)

theorem network_lowered (spelling : Spelling) : spelling.lowered.network = spelling.network := by
  have blind : (fun executor : String × Address =>
        checkExecutor executor.1 executor.2.lowered.text) =
      fun executor => checkExecutor executor.1 executor.2.text := by
    funext executor
    rw [checkExecutor, checkExecutor, Address.check_lowered]
  have executors : ((spelling.executors.map fun executor => (executor.1, executor.2.lowered)).map
        fun executor => (executor.1, executor.2.text)).mapM
          (fun executor => checkExecutor executor.1 executor.2) =
      (spelling.executors.map fun executor => (executor.1, executor.2.text)).mapM
        fun executor => checkExecutor executor.1 executor.2 := by
    rw [List.mapM_map, List.mapM_map, List.mapM_map]
    exact congrArg spelling.executors.mapM blind
  simp only [network, lowered, make, Address.check_lowered, executors]

end Spelling

end Network

namespace Sample

def receiver : Address := ⟨Network.leftoverReceiver, by decide⟩

def spelling : Network.Spelling := ⟨wrapper, native, receiver, []⟩

theorem network_spelling : spelling.network = .ok network := by
  decide +kernel

/-! The same request in mixed case. -/

def mixedNative : Address := ⟨"0xEeeeeEeeeEeEeeEeEeEeeEEEeeeeEeeeeeeeEEeE", by decide⟩

def mixedToken : Address := ⟨"0x6B175474E89094C44Da98b954EedeAC495271d0F", by decide⟩

def mixedExchange : Address := ⟨"0x1111111254EEB25477B68fb85Ed929f73A960582", by decide⟩

def mixedWrapper : Address := ⟨"0xC02aaA39b223FE8D0A0e5C4F27eAD9083C756Cc2", by decide⟩

def mixedReceiver : Address := ⟨"0x6A000F20005980200259B80c5102003040001068", by decide⟩

def mixedDeposit : WrapCall := ⟨mixedWrapper, ⟨"0xD0E30DB0", by decide⟩⟩

def mixedSpelling : Network.Spelling := ⟨mixedWrapper, mixedNative, mixedReceiver, []⟩

def mixedLegs : List Leg := [leg mixedNative mixedToken 100]

def mixedTemplates : List CallTemplate := [{ template true true with target := mixedExchange }]

def mixedWraps : Option WrapTemplates := some ⟨some mixedDeposit, none⟩

theorem lowered_native : native.lowered = mixedNative.lowered := by
  decide +kernel

theorem lowered_wrapper : wrapper.lowered = mixedWrapper.lowered := by
  decide +kernel

theorem lowered_spelling : spelling.lowered = mixedSpelling.lowered := by
  have receiver : receiver.lowered = mixedReceiver.lowered := by
    decide +kernel
  simp only [Network.Spelling.lowered, spelling, mixedSpelling, lowered_wrapper, lowered_native,
    receiver, List.map_nil]

theorem lowered_legs : legs.map Leg.lowered = mixedLegs.map Leg.lowered := by
  have token : token.lowered = mixedToken.lowered := by
    decide +kernel
  simp only [legs, mixedLegs, List.map_cons, List.map_nil, Leg.lowered, leg, lowered_native, token]

theorem lowered_templates :
    templates.map CallTemplate.lowered = mixedTemplates.map CallTemplate.lowered := by
  have exchange : exchange.lowered = mixedExchange.lowered := by
    decide +kernel
  simp only [templates, mixedTemplates, List.map_cons, List.map_nil, CallTemplate.lowered,
    template, exchange]

theorem lowered_wraps :
    wraps.map WrapTemplates.lowered = mixedWraps.map WrapTemplates.lowered := by
  have data : deposit.data.lowered = mixedDeposit.data.lowered := by
    decide +kernel
  have deposit : deposit.lowered = mixedDeposit.lowered := by
    rw [WrapCall.lowered, data]
    exact congrArg (WrapCall.mk · _) lowered_wrapper
  simp only [wraps, mixedWraps, Option.map_some, WrapTemplates.lowered, deposit, Option.map_none]

end Sample

namespace Compiler

variable {spelling spelling' : Network.Spelling} {route route' : PriceRoute}
  {templates templates' : List CallTemplate} {wraps wraps' : Option WrapTemplates}

/-- Letter case does not matter: what is the same in lower case makes the same configuration, and
there the same payload or the same fault. -/
theorem outcome_of_lowered (configured : spelling.lowered = spelling'.lowered)
    (legs : route.legs.map Leg.lowered = route'.legs.map Leg.lowered)
    (called : templates.map CallTemplate.lowered = templates'.map CallTemplate.lowered)
    (wrapped : wraps.map WrapTemplates.lowered = wraps'.map WrapTemplates.lowered)
    (sender sender' : String) :
    spelling.network = spelling'.network ∧
      ∀ network, (compile network route templates sender wraps).outcome =
        (compile network route' templates' sender' wraps').outcome := by
  constructor
  · rw [← spelling.network_lowered, configured, spelling'.network_lowered]
  · intro network
    have deposit : (WrapTemplates.deposit? wraps).map WrapCall.lowered =
        (WrapTemplates.deposit? wraps').map WrapCall.lowered := by
      rw [← WrapTemplates.deposit?_lowered, wrapped, WrapTemplates.deposit?_lowered]
    have withdraw : (WrapTemplates.withdraw? wraps).map WrapCall.lowered =
        (WrapTemplates.withdraw? wraps').map WrapCall.lowered := by
      rw [← WrapTemplates.withdraw?_lowered, wrapped, WrapTemplates.withdraw?_lowered]
    exact outcome_congr ⟨map_eq_of_lowered Leg.reading_lowered legs,
      map_eq_of_lowered CallTemplate.reading_lowered called,
      fun _ => WrapCall.map_reading_of_lowered deposit,
      fun _ => WrapCall.map_reading_of_lowered withdraw⟩ sender sender'

theorem outcome_of_lowered_mixed :
    ∃ payload,
      Sample.mixedSpelling.network = .ok Sample.network ∧
      (compile Sample.network (Sample.route Sample.legs) Sample.templates "" Sample.wraps).outcome =
        .ok payload ∧
      (compile Sample.network (Sample.route Sample.mixedLegs) Sample.mixedTemplates ""
        Sample.mixedWraps).outcome = .ok payload := by
  obtain ⟨payload, compiled⟩ := Sample.exists_payload_of_legs
  obtain ⟨same, alike⟩ := @outcome_of_lowered Sample.spelling Sample.mixedSpelling
    (Sample.route Sample.legs) (Sample.route Sample.mixedLegs) Sample.templates
    Sample.mixedTemplates Sample.wraps Sample.mixedWraps Sample.lowered_spelling
    Sample.lowered_legs Sample.lowered_templates Sample.lowered_wraps "" ""
  exact ⟨payload, same.symm.trans Sample.network_spelling, compiled,
    (alike Sample.network).symm.trans compiled⟩

end Compiler

end SwapCompiler
