import SwapCompiler.Proofs.LetterCase

/-!
# Hexadecimal texts as a code of bytes

Bytes are written as a text of the strict form and read back from it. A strict text is written
again in lower case once it is read, be it a byte string or an address; so it is determined by its
bytes up to letter case (`Hex.codecs_inverse`).
-/

namespace SwapCompiler

namespace Hex

variable {text : String} {digits : List Char}

theorem toList_encode (bytes : Bytes) : (encode bytes).toList = '0' :: 'x' :: Hex.digits bytes :=
  String.toList_ofList

/-- Behind its mark a text is read pair by pair. -/
theorem decode_eq_pairs (form : text.toList = '0' :: 'x' :: digits)
    (isPairs : isPairs digits = true) : decode text = .ok (pairs digits) := by
  rw [decode, form, withoutMark, readDigits_eq_ok isPairs]

/-- What is read of a text is written as its lower-case form. -/
theorem encode_pairs (form : text.toList = '0' :: 'x' :: digits)
    (isPairs : isPairs digits = true) : encode (pairs digits) = Text.lower text := by
  rw [← String.toList_inj, toList_encode, digits_pairs isPairs,
    Text.toList_lower form (isPairs_iff.mp isPairs).2]

theorem decode_encode (bytes : Bytes) : decode (encode bytes) = .ok bytes := by
  rw [decode_eq_pairs (toList_encode bytes) (isPairs_digits bytes), pairs_digits]

/-- Bytes are determined by their text. -/
theorem encode_inj {bytes bytes' : Bytes} : encode bytes = encode bytes' ↔ bytes = bytes' := by
  constructor
  · intro same
    have read := congrArg decode same
    rw [decode_encode, decode_encode] at read
    exact Except.ok.inj read
  · rintro rfl
    rfl

end Hex

namespace Address

/-- The bytes of an address are written as its normalized text. -/
theorem encode_bytes (address : Address) :
    Hex.encode address.bytes = normalize address.text := by
  obtain ⟨digits, form, -, hex⟩ := exists_digits_normalize address.strict
  obtain ⟨isPairs, read⟩ := decode_eq_pairs address.strict form
  rw [decode_text] at read
  rw [Except.ok.inj read, Hex.encode_pairs form isPairs,
    ← normalize_of_strict (isStrictAddress_normalize address.strict),
    normalize_normalize address.strict]

/-- Addresses have the same bytes exactly if they are spelled alike up to letter case. -/
theorem bytes_inj {a b : Address} : a.bytes = b.bytes ↔ Text.lower a.text = Text.lower b.text := by
  rw [← Hex.encode_inj, encode_bytes, encode_bytes, normalize_of_strict a.strict,
    normalize_of_strict b.strict]

end Address

namespace Hex

/-- Bytes that are written have the strict form, and read again are what they were. A strict text
can be read, and written again it is the text in lower case. So it is with addresses: they have
twenty bytes, which are written as the normalized text, and two of them have the same bytes exactly
if they differ in letter case only. -/
theorem codecs_inverse :
    (∀ bytes, isStrict (encode bytes) = true ∧ decode (encode bytes) = .ok bytes) ∧
    (∀ text, isStrict text = true →
      ∃ bytes, decode text = .ok bytes ∧ encode bytes = Text.lower text) ∧
    ∀ text, isStrictAddress text = true →
      (∃ bytes, Address.decode text = .ok bytes ∧ bytes.length = 20 ∧
        encode bytes = Address.normalize text) ∧
      ∀ other, isStrictAddress other = true →
        (Address.decode text = Address.decode other ↔ Text.lower text = Text.lower other) := by
  refine ⟨fun bytes => ⟨isStrict_encode bytes, decode_encode bytes⟩, fun text strict => ?_,
    fun text strict => ⟨?_, fun other strict' => ?_⟩⟩
  · obtain ⟨digits, form, isPairs⟩ := HexData.exists_pairs ⟨text, strict⟩
    exact ⟨pairs digits, decode_eq_pairs form isPairs, encode_pairs form isPairs⟩
  · exact ⟨_, Address.decode_text ⟨text, strict⟩, Address.length_bytes _, Address.encode_bytes _⟩
  · rw [Address.decode_text ⟨text, strict⟩, Address.decode_text ⟨other, strict'⟩, Except.ok.injEq]
    exact Address.bytes_inj

theorem codecs_inverse_of_mixed_case :
    isStrict "0xABcd" = true ∧ (∃ bytes, decode "0xABcd" = .ok bytes ∧ encode bytes = "0xabcd") ∧
      Address.decode Sample.token.text = Address.decode Sample.mixedToken.text ∧
      Address.decode Sample.token.text ≠ Address.decode Sample.native.text := by
  obtain ⟨-, data, address⟩ := codecs_inverse
  have strict : isStrict "0xABcd" = true := by decide
  obtain ⟨bytes, read, written⟩ := data "0xABcd" strict
  obtain ⟨-, alike⟩ := address Sample.token.text Sample.token.strict
  refine ⟨strict, ⟨bytes, read, written.trans (by decide +kernel)⟩, ?_, ?_⟩
  · exact (alike _ Sample.mixedToken.strict).mpr (by decide +kernel)
  · intro same
    exact absurd ((alike _ Sample.native.strict).mp same) (by decide +kernel)

end Hex

end SwapCompiler
