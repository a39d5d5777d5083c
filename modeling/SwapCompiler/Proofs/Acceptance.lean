import SwapCompiler.Main
import SwapCompiler.Proofs.Address

/-!
# Which accepted addresses are sound

The address of a configuration is free text: it is accepted if it has 42 characters in its
normalized form and reads as a hexadecimal literal. Literals may hold underscores, white space
at their end and digits of any script, which addresses may not. An accepted address is sound,
that is, in lower case, of twenty bytes and written again from these, exactly if it was given
as forty digits of ASCII, with their mark or without (`Address.accepted_sound_iff`).
-/

namespace SwapCompiler

/-! ## Lower case and back -/

namespace Text

/-- The characters of addresses: hexadecimal digits of either case, and the letter of the
mark. -/
def IsAddressLetter (c : Char) : Prop := (Hex.digit? c).isSome ∨ c = 'x'

instance : DecidablePred IsAddressLetter := fun _ => inferInstanceAs (Decidable (_ ∨ _))

theorem toNat_lt_of_isAddressLetter {c : Char} (h : IsAddressLetter c) : c.toNat < 128 := by
  obtain digit | rfl := h
  · exact Hex.toNat_lt_of_digit digit
  · decide

/-- What lies as far in front of an address letter as the small letters of a run lie behind its
capitals is none of these capitals. -/
theorem not_mem_run_of_isAddressLetter {c : Char} (h : IsAddressLetter c) :
    ∀ run ∈ capitalRuns, ¬ ((run.1 : Int) ≤ c.toNat - run.2.2.2 ∧
      (c.toNat : Int) - run.2.2.2 ≤ run.2.1) := by
  have ascii : ∀ n < 128, IsAddressLetter (Char.ofNat n) → ∀ run ∈ capitalRuns,
      ¬ ((run.1 : Int) ≤ (Char.ofNat n).toNat - run.2.2.2 ∧
        ((Char.ofNat n).toNat : Int) - run.2.2.2 ≤ run.2.1) := by
    decide +kernel
  have back := ascii c.toNat (toNat_lt_of_isAddressLetter h)
  rw [Char.ofNat_toNat] at back
  exact back h

/-- A character whose small letter is one of an address is a character of ASCII. -/
theorem toNat_lt_of_smallLetter {c : Char} (h : IsAddressLetter (smallLetter c)) :
    c.toNat < 128 := by
  by_cases ascii : c.toNat < 128
  · exact ascii
  rw [smallLetter, if_neg ascii] at h
  split at h
  · rename_i first last step distance found
    have inside := List.find?_some found
    simp only [Bool.and_eq_true, decide_eq_true_eq] at inside
    have apart := not_mem_run_of_isAddressLetter h _ (List.mem_of_find?_eq_some found)
    have positive : (c.toNat + distance).toNat ≠ 0 := by
      intro zero
      rw [zero] at h
      exact absurd h (by decide)
    by_cases valid : (c.toNat + distance).toNat.isValidChar
    · have place : (Char.ofNat (c.toNat + distance).toNat).toNat = (c.toNat + distance).toNat := by
        rw [Char.ofNat, dif_pos valid]
        rfl
      rw [place] at apart
      dsimp only at apart
      omega
    · rw [Char.ofNat, dif_neg valid] at h
      exact absurd h (by decide)
  · exact toNat_lt_of_isAddressLetter h

theorem mem_lowerFrom_of_mem {c : Char} (text : List Char) {before done : List Char}
    (h : c ∈ done) : c ∈ lowerFrom before done text := by
  induction text generalizing before done with
  | nil => exact List.mem_reverse.mpr h
  | cons d rest ih => exact ih (List.mem_append_right _ h)

/-- A text whose lower-case form consists of address letters is in ASCII. -/
theorem ascii_of_lowerFrom {text before done : List Char}
    (h : ∀ c ∈ lowerFrom before done text, IsAddressLetter c) : ∀ c ∈ text, c.toNat < 128 := by
  induction text generalizing before done with
  | nil => exact fun _ member => nomatch member
  | cons c rest ih =>
    rw [lowerFrom] at h
    rw [List.forall_mem_cons]
    refine ⟨?_, ih h⟩
    -- whatever takes the place of the first character is part of the form
    split at h
    · have mark := h '\u0307' (mem_lowerFrom_of_mem _ (by simp))
      exact absurd mark (by decide)
    · split at h
      · split at h
        · have final := h 'ς' (mem_lowerFrom_of_mem _ (by simp))
          exact absurd final (by decide)
        · have sigma := h 'σ' (mem_lowerFrom_of_mem _ (by simp))
          exact absurd sigma (by decide)
      · exact toNat_lt_of_smallLetter (h _ (mem_lowerFrom_of_mem _ (by simp)))

theorem toList_lower_of_ascii {text : String} (ascii : ∀ c ∈ text.toList, c.toNat < 128) :
    (lower text).toList = text.toList.map smallLetter := by
  rw [lower, String.toList_ofList, lowerFrom_of_ascii ascii]
  rfl

/-- The only characters of ASCII with these small letters are the digits themselves and the
marks. -/
theorem of_smallLetter {c : Char} (ascii : c.toNat < 128) :
    ((Hex.digit? (smallLetter c)).isSome → (Hex.digit? c).isSome) ∧
      (smallLetter c = '0' → c = '0') ∧ (smallLetter c = 'x' → c = 'x' ∨ c = 'X') := by
  have all : ∀ n < 128, ((Hex.digit? (smallLetter (Char.ofNat n))).isSome →
      (Hex.digit? (Char.ofNat n)).isSome) ∧ (smallLetter (Char.ofNat n) = '0' →
        Char.ofNat n = '0') ∧ (smallLetter (Char.ofNat n) = 'x' →
        Char.ofNat n = 'x' ∨ Char.ofNat n = 'X') := by
    decide +kernel
  have back := all c.toNat ascii
  rwa [Char.ofNat_toNat] at back

end Text

namespace Address

/-- The text is forty hexadecimal digits of ASCII, of either case, with their mark or without. -/
def IsSpelledOut (text : String) : Prop :=
  (Hex.withoutMark text.toList).length = 40 ∧
    ∀ c ∈ Hex.withoutMark text.toList, (Hex.digit? c).isSome

instance : DecidablePred IsSpelledOut := fun text =>
  decidable_of_iff ((Hex.withoutMark text.toList).length = 40 ∧
    (Hex.withoutMark text.toList).all (fun c => (Hex.digit? c).isSome) = true)
    (by rw [IsSpelledOut, List.all_eq_true])

/-- The text is `0x` and forty digits in lower case. -/
def IsCanonical (text : String) : Prop :=
  ∃ digits, text.toList = '0' :: 'x' :: digits ∧ digits.length = 40 ∧
    ∀ c ∈ digits, ('0' ≤ c ∧ c ≤ '9') ∨ ('a' ≤ c ∧ c ≤ 'f')

/-- The address is canonical, has twenty bytes, and is what these are written as. -/
def IsSound (address : String) : Prop :=
  IsCanonical address ∧
    ∃ bytes, decode address = .ok bytes ∧ bytes.length = 20 ∧ Hex.encode bytes = address

/-! ## From the spelling to the address -/

theorem withoutMark_of_digits {text : List Char} (hex : ∀ c ∈ text, (Hex.digit? c).isSome) :
    Hex.withoutMark text = text := by
  unfold Hex.withoutMark
  split
  · exact absurd (hex 'x' (by simp)) (by decide)
  · exact absurd (hex 'X' (by simp)) (by decide)
  · rfl

/-- The three ways to spell an address. -/
theorem IsSpelledOut.exists_digits {text : String} (h : IsSpelledOut text) :
    ∃ digits, (text.toList = '0' :: 'x' :: digits ∨ text.toList = '0' :: 'X' :: digits ∨
        text.toList = digits) ∧ digits.length = 40 ∧ ∀ c ∈ digits, (Hex.digit? c).isSome := by
  refine ⟨Hex.withoutMark text.toList, ?_, h⟩
  unfold Hex.withoutMark
  split
  · exact .inl ‹_›
  · exact .inr (.inl ‹_›)
  · exact .inr (.inr rfl)

/-- The normalized text of an address that is spelled out. -/
theorem IsSpelledOut.toList_normalize {text : String} (h : IsSpelledOut text) :
    ∃ digits : List Char, (normalize text).toList = '0' :: 'x' :: digits.map Text.smallLetter ∧
      digits.length = 40 ∧ ∀ c ∈ digits, (Hex.digit? c).isSome := by
  obtain ⟨digits, form, length, hex⟩ := h.exists_digits
  refine ⟨digits, ?_, length, hex⟩
  have ascii : ∀ c ∈ digits, c.toNat < 128 := fun c member => Hex.toNat_lt_of_digit (hex c member)
  obtain form | form | form := form
  · exact Address.toList_normalize form hex
  · have lowered : (Text.lower text).toList = '0' :: 'x' :: digits.map Text.smallLetter := by
      rw [Text.toList_lower_of_ascii, form]
      · rfl
      · rw [form, List.forall_mem_cons, List.forall_mem_cons]
        exact ⟨by decide, by decide, ascii⟩
    simp only [normalize, lowered]
  · have lowered : (Text.lower text).toList = digits.map Text.smallLetter := by
      rw [Text.toList_lower_of_ascii (form ▸ ascii), form]
    rw [normalize]
    split
    · rename_i rest marked
      rw [lowered] at marked
      have second := Hex.digits_smallLetter hex 'x' (by rw [marked]; simp)
      exact absurd second (by decide)
    · rw [String.toList_append, lowered]
      rfl

/-! ## From the address to the spelling -/

theorem digits_of_map_smallLetter {text digits : List Char} (ascii : ∀ c ∈ text, c.toNat < 128)
    (same : text.map Text.smallLetter = digits) (hex : ∀ c ∈ digits, (Hex.digit? c).isSome) :
    ∀ c ∈ text, (Hex.digit? c).isSome := by
  intro c member
  have small := hex (Text.smallLetter c) (same ▸ List.mem_map_of_mem member)
  exact (Text.of_smallLetter (ascii c member)).1 small

/-- Only what is spelled out is normalized to the strict form. -/
theorem isSpelledOut_of_normalize {text : String}
    (strict : isStrictAddress (normalize text) = true) : IsSpelledOut text := by
  obtain ⟨digits, form, length, hex⟩ := exists_digits strict
  -- where the lower-case form consists of address letters, it goes character by character
  have lowered (letters : ∀ c ∈ (Text.lower text).toList, Text.IsAddressLetter c) :
      (∀ c ∈ text.toList, c.toNat < 128) ∧
        text.toList.map Text.smallLetter = (Text.lower text).toList := by
    have ascii : ∀ c ∈ text.toList, c.toNat < 128 := by
      rw [Text.lower, String.toList_ofList] at letters
      exact Text.ascii_of_lowerFrom letters
    exact ⟨ascii, (Text.toList_lower_of_ascii ascii).symm⟩
  rw [normalize] at form
  split at form
  · obtain ⟨ascii, same⟩ := lowered (by
      rw [form, List.forall_mem_cons, List.forall_mem_cons]
      exact ⟨by decide, by decide, fun c member => .inl (hex c member)⟩)
    rw [form] at same
    obtain ⟨zero, rest, given, isZero, same⟩ := List.map_eq_cons_iff.mp same
    obtain ⟨mark, body, rfl, isMark, same⟩ := List.map_eq_cons_iff.mp same
    rw [given, List.forall_mem_cons, List.forall_mem_cons] at ascii
    obtain rfl := (Text.of_smallLetter ascii.1).2.1 isZero
    have length : body.length = 40 := by rw [← length, ← same, List.length_map]
    have hex := digits_of_map_smallLetter ascii.2.2 same hex
    obtain rfl | rfl := (Text.of_smallLetter ascii.2.1).2.2 isMark
    · simp only [IsSpelledOut, given, Hex.withoutMark]
      exact ⟨length, hex⟩
    · simp only [IsSpelledOut, given, Hex.withoutMark]
      exact ⟨length, hex⟩
  · rw [String.toList_append] at form
    have form : (Text.lower text).toList = digits := by simpa using form
    obtain ⟨ascii, same⟩ := lowered (by
      rw [form]
      exact fun c member => .inl (hex c member))
    rw [form] at same
    have hex := digits_of_map_smallLetter ascii same hex
    rw [IsSpelledOut, withoutMark_of_digits hex]
    exact ⟨by rw [← length, ← same, List.length_map], hex⟩

theorem check_eq_ok {text accepted : String} :
    check text = .ok accepted ↔ isValid (normalize text) = true ∧ normalize text = accepted := by
  unfold check
  by_cases valid : isValid (normalize text) = true
  · rw [if_pos valid, Except.ok.injEq, and_iff_right valid]
  · rw [if_neg valid]
    constructor
    · rintro ⟨⟩
    · exact fun h => absurd h.1 valid

/-- What is accepted has a mark and forty characters behind it. -/
theorem exists_body_of_check {text accepted : String} (h : check text = .ok accepted) :
    ∃ body, accepted.toList = '0' :: 'x' :: body ∧ body.length = 40 := by
  obtain ⟨valid, rfl⟩ := check_eq_ok.mp h
  unfold isValid at valid
  split at valid
  · rename_i body form
    simp only [Bool.and_eq_true, beq_iff_eq] at valid
    exact ⟨body, form, valid.1⟩
  · cases valid

theorem isStrictAddress_iff {text : String} {body : List Char}
    (form : text.toList = '0' :: 'x' :: body) (length : body.length = 40) :
    isStrictAddress text = true ↔ ∀ c ∈ body, (Hex.digit? c).isSome := by
  simp only [isStrictAddress, form, length, beq_self_eq_true, Bool.true_and, List.all_eq_true]

/-- Only the strict form has twenty bytes. -/
theorem isStrictAddress_of_decode {text : String} {bytes : Bytes} (h : decode text = .ok bytes)
    (length : bytes.length = 20) : isStrictAddress (normalize text) = true := by
  rw [decode, Outcome.bind_eq_ok] at h
  obtain ⟨normalized, accepted, h⟩ := h
  obtain ⟨body, form, forty⟩ := exists_body_of_check accepted
  obtain ⟨-, rfl⟩ := check_eq_ok.mp accepted
  rw [isStrictAddress_iff form forty]
  rw [form, List.drop_succ_cons, List.drop_succ_cons, List.drop_zero] at h
  split at h
  · rename_i read
    cases h
    exact (Hex.isPairs_iff.mp (Hex.isPairs_of_readDigits read (by rw [length, forty]))).2
  · cases h

theorem IsCanonical.isStrictAddress {text : String} (h : IsCanonical text) :
    isStrictAddress text = true := by
  obtain ⟨digits, form, length, small⟩ := h
  rw [isStrictAddress_iff form length]
  intro c member
  unfold Hex.digit?
  by_cases digit : '0' ≤ c ∧ c ≤ '9'
  · rw [if_pos digit]
    rfl
  · rw [if_neg digit, if_pos ((small c member).resolve_left digit)]
    rfl

/-- What is written for bytes has only digits behind its mark. -/
theorem isStrictAddress_of_encode {text : String} {body : List Char} {bytes : Bytes}
    (form : text.toList = '0' :: 'x' :: body) (length : body.length = 40)
    (written : Hex.encode bytes = text) : isStrictAddress text = true := by
  rw [isStrictAddress_iff form length]
  rw [← written, Hex.encode, String.toList_ofList] at form
  cases form
  exact (Hex.isPairs_iff.mp (Hex.isPairs_digits bytes)).2

/-! ## Accepted addresses -/

/-- What is spelled out is accepted and sound. -/
theorem IsSpelledOut.isSound {text : String} (h : IsSpelledOut text) : IsSound (normalize text) := by
  obtain ⟨digits, form, length, hex⟩ := h.toList_normalize
  have small := Hex.digits_smallLetter hex
  have forty : (digits.map Text.smallLetter).length = 40 := by rw [List.length_map, length]
  have strict : isStrictAddress (normalize text) = true := (isStrictAddress_iff form forty).mpr small
  have again : normalize (normalize text) = normalize text := by
    rw [← String.toList_inj, Address.toList_normalize form small, form,
      Hex.map_smallLetter_smallLetter hex]
  obtain ⟨pairs, read⟩ := decode_eq_pairs strict (by rw [again, form])
  refine ⟨⟨_, form, forty, ?_⟩, _, read, ?_, ?_⟩
  · intro c member
    obtain ⟨digit, inside, rfl⟩ := List.mem_map.mp member
    exact Hex.of_isSome_digit? (P := fun c => ('0' ≤ Text.smallLetter c ∧ Text.smallLetter c ≤ '9') ∨
      ('a' ≤ Text.smallLetter c ∧ Text.smallLetter c ≤ 'f')) (by decide) (hex digit inside)
  · have twice := Hex.length_pairs pairs
    omega
  · rw [← String.toList_inj, Hex.encode, String.toList_ofList, Hex.digits_pairs pairs, form,
      Hex.map_smallLetter_smallLetter hex]

theorem isSpelledOut_of_strict {text accepted : String} (h : check text = .ok accepted)
    (strict : isStrictAddress accepted = true) : IsSpelledOut text := by
  obtain ⟨-, rfl⟩ := check_eq_ok.mp h
  exact isSpelledOut_of_normalize strict

/-- An accepted address of twenty bytes was spelled out. -/
theorem isSpelledOut_of_decode {text accepted : String} {bytes : Bytes}
    (h : check text = .ok accepted) (read : decode accepted = .ok bytes)
    (length : bytes.length = 20) : IsSpelledOut text := by
  obtain ⟨body, form, forty⟩ := exists_body_of_check h
  -- reading normalizes once more, but the text behind the mark is still that of the address
  obtain ⟨-, hex⟩ := isSpelledOut_of_normalize (isStrictAddress_of_decode read length)
  rw [form] at hex
  exact isSpelledOut_of_strict h ((isStrictAddress_iff form forty).mpr hex)

/-- An accepted address that its bytes are written as was spelled out. -/
theorem isSpelledOut_of_encode {text accepted : String} {bytes : Bytes}
    (h : check text = .ok accepted) (written : Hex.encode bytes = accepted) :
    IsSpelledOut text := by
  obtain ⟨body, form, forty⟩ := exists_body_of_check h
  exact isSpelledOut_of_strict h (isStrictAddress_of_encode form forty written)

theorem isSound_iff_of_check {text accepted : String} (h : check text = .ok accepted) :
    IsSound accepted ↔ IsSpelledOut text := by
  constructor
  · exact fun sound => isSpelledOut_of_strict h sound.1.isStrictAddress
  · intro spelled
    obtain ⟨-, rfl⟩ := check_eq_ok.mp h
    exact spelled.isSound

/-- What is accepted of a row of texts is sound throughout exactly if all were spelled out. -/
theorem isSound_iff_of_checked {given stored : List String}
    (h : List.Forall₂ (fun text accepted => check text = .ok accepted) given stored) :
    (∀ accepted ∈ stored, IsSound accepted) ↔ ∀ text ∈ given, IsSpelledOut text := by
  induction h with
  | nil => simp
  | cons first _ ih =>
    rw [List.forall_mem_cons, List.forall_mem_cons, isSound_iff_of_check first, ih]

end Address

/-! ## Configurations -/

namespace Network

/-- All addresses that the configuration stores. -/
def addresses (network : Network) : List String :=
  network.wrappedNative :: network.native :: network.receiver :: network.executors.map (·.2)

theorem checkExecutor_eq_ok {name address : String} {executor : Executor × String}
    (h : checkExecutor name address = .ok executor) : Address.check address = .ok executor.2 := by
  unfold checkExecutor at h
  split at h
  · cases h
  · obtain ⟨accepted, checked, rfl⟩ := Outcome.map_eq_ok.mp h
    exact checked

/-- A configuration stores what was accepted of each address that it is made from. -/
theorem checked_of_make {wrapped native receiver : String} {executors : List (String × String)}
    {network : Network} (made : make wrapped native receiver executors = .ok network) :
    List.Forall₂ (fun given stored => Address.check given = .ok stored)
      (wrapped :: native :: receiver :: executors.map (·.2)) network.addresses := by
  simp only [make, Outcome.bind_eq_ok, Outcome.pure_eq_ok, Outcome.mapM_eq_ok] at made
  obtain ⟨w, checkedWrapped, n, checkedNative, r, checkedReceiver, _, checked, rfl⟩ := made
  refine .cons checkedWrapped (.cons checkedNative (.cons checkedReceiver ?_))
  rw [List.forall₂_map_left_iff, List.forall₂_map_right_iff]
  exact checked.imp fun _ _ => checkExecutor_eq_ok

end Network

/-- What is not set stands for an address that is spelled out. -/
theorem Environment.isSpelledOut_get_iff (environment : Environment) (name : String)
    {default : String} (standard : Address.IsSpelledOut default) :
    Address.IsSpelledOut (environment.get name default) ↔
      ∀ text, environment.lookup name = some text → Address.IsSpelledOut text := by
  rw [get]
  cases environment.lookup name with
  | none => simp [standard]
  | some text => simp

/-! ## The main statement -/

namespace Sample

/-- An address in capitals and without its mark. -/
def bareCapitals : String := "6B175474E89094C44DA98B954EEDEAC495271D0F"

/-- A literal of 42 characters that is no address. -/
def underscored : String := "0x_111111111111111111111111111111111111111"

end Sample

namespace Address

/-- An accepted address is in lower case, has twenty bytes and is what these are written as, each
exactly if it was given as forty digits of ASCII with their mark or without. The addresses that
a configuration stores are accepted ones, so that it is sound exactly if all that it was made
from were given in this way; from an environment, all that are set there. -/
theorem accepted_sound_iff (text wrapped native receiver : String)
    (executors : List (String × String)) (environment : Environment) :
    (∀ accepted, check text = .ok accepted →
      (IsCanonical accepted ↔ IsSpelledOut text) ∧
      ((∃ bytes, decode accepted = .ok bytes ∧ bytes.length = 20) ↔ IsSpelledOut text) ∧
      ((∃ bytes, decode accepted = .ok bytes ∧ Hex.encode bytes = accepted) ↔
        IsSpelledOut text)) ∧
    (∀ network, Network.make wrapped native receiver executors = .ok network →
      ((∀ stored ∈ network.addresses, IsSound stored) ↔
        ∀ given ∈ wrapped :: native :: receiver :: executors.map (·.2), IsSpelledOut given)) ∧
    ∀ network, Network.ofEnvironment environment = .ok network →
      ((∀ stored ∈ network.addresses, IsSound stored) ↔
        ∀ name ∈ CommandLine.environmentNames, ∀ text, environment.lookup name = some text →
          IsSpelledOut text) := by
  refine ⟨fun accepted h => ?_, fun network made =>
    isSound_iff_of_checked (Network.checked_of_make made), fun network made => ?_⟩
  · have sound (spelled : IsSpelledOut text) : IsSound accepted :=
      (isSound_iff_of_check h).mpr spelled
    refine ⟨⟨fun canonical => isSpelledOut_of_strict h canonical.isStrictAddress,
      fun spelled => (sound spelled).1⟩, ⟨?_, fun spelled => ?_⟩, ⟨?_, fun spelled => ?_⟩⟩
    · rintro ⟨bytes, read, length⟩
      exact isSpelledOut_of_decode h read length
    · obtain ⟨-, bytes, read, length, -⟩ := sound spelled
      exact ⟨bytes, read, length⟩
    · rintro ⟨bytes, -, written⟩
      exact isSpelledOut_of_encode h written
    · obtain ⟨-, bytes, read, -, written⟩ := sound spelled
      exact ⟨bytes, read, written⟩
  · rw [isSound_iff_of_checked (Network.checked_of_make made)]
    simp only [CommandLine.environmentNames, List.map_cons, List.map_nil, List.forall_mem_cons,
      List.not_mem_nil, false_imp_iff, implies_true, and_true]
    rw [environment.isSpelledOut_get_iff _ (by decide +kernel),
      environment.isSpelledOut_get_iff _ (by decide +kernel),
      environment.isSpelledOut_get_iff _ (by decide +kernel),
      environment.isSpelledOut_get_iff _ (by decide +kernel)]

theorem accepted_sound_of_bare_capitals :
    check Sample.bareCapitals = .ok "0x6b175474e89094c44da98b954eedeac495271d0f" ∧
      IsSpelledOut Sample.bareCapitals ∧
      IsCanonical "0x6b175474e89094c44da98b954eedeac495271d0f" ∧
      (∃ network, Network.make Sample.bareCapitals Sample.bareCapitals Sample.bareCapitals [] =
          .ok network ∧
        ∀ stored ∈ network.addresses, IsSound stored) ∧
      ∃ network,
        Network.ofEnvironment [("EXECUTOR_NATIVE_TOKEN", Sample.bareCapitals)] = .ok network ∧
        ∀ stored ∈ network.addresses, IsSound stored := by
  have accepted : check Sample.bareCapitals =
      .ok "0x6b175474e89094c44da98b954eedeac495271d0f" := by
    decide +kernel
  have spelled : IsSpelledOut Sample.bareCapitals := by decide +kernel
  obtain ⟨configured, made⟩ := Outcome.exists_of_isOk (by decide +kernel :
    (Network.make Sample.bareCapitals Sample.bareCapitals Sample.bareCapitals []).isOk = true)
  obtain ⟨network, loaded⟩ := Outcome.exists_of_isOk (by decide +kernel :
    (Network.ofEnvironment [("EXECUTOR_NATIVE_TOKEN", Sample.bareCapitals)]).isOk = true)
  obtain ⟨single, stored, environment⟩ := accepted_sound_iff Sample.bareCapitals
    Sample.bareCapitals Sample.bareCapitals Sample.bareCapitals []
    [("EXECUTOR_NATIVE_TOKEN", Sample.bareCapitals)]
  refine ⟨accepted, spelled, (single _ accepted).1.mpr spelled,
    ⟨configured, made, (stored _ made).mpr ?_⟩, network, loaded, (environment _ loaded).mpr ?_⟩
  · simp [spelled]
  · intro name _ text given
    rw [List.lookup_cons] at given
    split at given
    · cases given
      exact spelled
    · cases given

/-- An underscore passes for part of the literal. The address is accepted and stored, but it is
in no form of an address and has no bytes. -/
theorem accepted_with_underscore :
    check Sample.underscored = .ok Sample.underscored ∧
      (∃ network,
        Network.ofEnvironment [("EXECUTOR_NATIVE_TOKEN", Sample.underscored)] = .ok network ∧
        Sample.underscored ∈ network.addresses) ∧
      ¬ IsCanonical Sample.underscored ∧
      decode Sample.underscored = .error (.invalidHex 0) := by
  have stored : (Network.ofEnvironment
      [("EXECUTOR_NATIVE_TOKEN", Sample.underscored)]).toOption.any (fun network =>
        Sample.underscored ∈ network.addresses) = true := by
    decide +kernel
  obtain ⟨network, made, stored⟩ := Outcome.exists_of_any stored
  refine ⟨by decide +kernel, ⟨network, made, of_decide_eq_true stored⟩, fun canonical => ?_,
    by decide +kernel⟩
  have strict := canonical.isStrictAddress
  exact absurd strict (by decide)

end Address

end SwapCompiler
