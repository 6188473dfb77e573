import Telemetry.Http.Message
import Telemetry.Proofs.Bytes
import Telemetry.Proofs.Text.Blank
import Telemetry.Proofs.Text.Encoding
import Telemetry.Signature

/-!
# What is signed passes its check, and nothing else does

A signature is spelled in lower-case hexadecimal digits, none of which is lost
on the way: they are no blanks, and they may stand in a header.  Bytes have one
such spelling only, so a payload has no other signature than the one that it is
given.
-/

namespace Telemetry

/-- Every letter of a hexadecimal spelling is a digit below sixteen. -/
theorem Bytes.exists_digit_of_mem_hexDigits
    {bytes : Bytes} {letter : Char}
    (present : letter ∈ hexDigits bytes) :
    ∃ value < 16, letter = hexDigit value := by
  obtain ⟨byte, -, spelled⟩ := List.mem_flatMap.mp present
  have small : byte.toNat < 256 := byte.toNat_lt
  rcases List.mem_cons.mp spelled with high | low
  · exact ⟨byte.toNat / 16, by omega, high⟩
  · exact ⟨byte.toNat % 16, by omega, List.mem_singleton.mp low⟩

namespace Signer

theorem isLowerHex_hexDigit : ∀ value < 16, isLowerHex (Bytes.hexDigit value) = true := by
  decide

theorem isBlank_hexDigit : ∀ value < 16, Text.isBlank (Bytes.hexDigit value) = false := by
  decide

theorem isTextByte_hexDigit :
    ∀ value < 16, (String.utf8EncodeChar (Bytes.hexDigit value)).all Http.isTextByte = true := by
  decide

theorem isLowerHex_of_mem_sign
    {signer : Signer} {payload : Bytes} {letter : Char}
    (present : letter ∈ (signer.sign payload).toList) :
    isLowerHex letter = true := by
  rw [sign, Bytes.hex, String.toList_ofList] at present
  obtain ⟨value, small, rfl⟩ := Bytes.exists_digit_of_mem_hexDigits present
  exact isLowerHex_hexDigit value small

/-- A signature has no blanks around it. -/
theorem trim_sign (signer : Signer) (payload : Bytes) :
    Text.trim (signer.sign payload) = signer.sign payload := by
  rw [Text.trim, sign, Bytes.hex, String.toList_ofList, Text.trimLetters_eq_self]
  intro letter present
  obtain ⟨value, small, rfl⟩ := Bytes.exists_digit_of_mem_hexDigits present
  exact isBlank_hexDigit value small

/-- The signature of a payload is spelled in sixty-four digits. -/
theorem length_sign (signer : Signer) (payload : Bytes) :
    (signer.sign payload).length = 64 := by
  rw [sign, Bytes.hex, String.length_ofList, Bytes.length_hexDigits, Digest.length_hmac]

/-- The signature of a payload passes the check of the payload, also with blanks around it. -/
theorem verifies_of_trim_eq_sign
    {signer : Signer} {payload : Bytes} {signature : String}
    (same : Text.trim signature = signer.sign payload) :
    signer.verifies payload signature = true := by
  have lower : (signer.sign payload).toList.all isLowerHex = true :=
    List.all_eq_true.mpr fun _ => isLowerHex_of_mem_sign
  have read : Bytes.ofHex? (signer.sign payload) = some (Digest.hmac signer.key payload) :=
    Bytes.ofHex?_hex _
  simp only [verifies, same, lower, if_true, read, beq_self_eq_true]

/-- The signature of a payload passes the check of the payload. -/
theorem verifies_sign (signer : Signer) (payload : Bytes) :
    signer.verifies payload (signer.sign payload) = true :=
  verifies_of_trim_eq_sign (signer.trim_sign payload)

/-- A lower-case hexadecimal digit is the spelling of a number below sixteen. -/
theorem exists_digit_of_isLowerHex
    {letter : Char}
    (lower : isLowerHex letter = true) :
    ∃ value < 16, letter = Bytes.hexDigit value := by
  have nine : '9'.toNat = 57 := rfl
  have zero : '0'.toNat = 48 := rfl
  have first : 'a'.toNat = 97 := rfl
  have last : 'f'.toNat = 102 := rfl
  rcases Bool.or_eq_true_iff.mp lower with digit | letterDigit
  · obtain ⟨low, high⟩ := Bool.and_eq_true_iff.mp digit
    have atLeast : '0'.toNat ≤ letter.toNat := of_decide_eq_true low
    have atMost : letter.toNat ≤ '9'.toNat := of_decide_eq_true high
    refine ⟨letter.toNat - 48, by omega, ?_⟩
    rw [Bytes.hexDigit, if_pos (by omega), show 48 + (letter.toNat - 48) = letter.toNat by omega,
      Char.ofNat_toNat]
  · obtain ⟨low, high⟩ := Bool.and_eq_true_iff.mp letterDigit
    have atLeast : 'a'.toNat ≤ letter.toNat := of_decide_eq_true low
    have atMost : letter.toNat ≤ 'f'.toNat := of_decide_eq_true high
    refine ⟨letter.toNat - 87, by omega, ?_⟩
    rw [Bytes.hexDigit, if_neg (by omega), show 87 + (letter.toNat - 87) = letter.toNat by omega,
      Char.ofNat_toNat]

/-- What passes the check of a payload is its signature, apart from the blanks around it. -/
theorem trim_eq_sign_of_verifies
    {signer : Signer} {payload : Bytes} {signature : String}
    (passes : signer.verifies payload signature = true) :
    Text.trim signature = signer.sign payload := by
  unfold verifies at passes
  dsimp only at passes
  split at passes
  next lower =>
    split at passes
    next digest read =>
      have same : digest = Digest.hmac signer.key payload := beq_iff_eq.mp passes
      have digits : ∀ letter ∈ (Text.trim signature).toList,
          ∃ value < 16, letter = Bytes.hexDigit value :=
        fun letter present => exists_digit_of_isLowerHex (List.all_eq_true.mp lower letter present)
      rw [Bytes.ofHex?] at read
      obtain ⟨later, isLater, spelling⟩ := Bytes.eq_hexDigits_of_readHexPairs? digits read
      rw [List.reverse_nil, List.nil_append] at isLater
      rw [← String.toList_inj, sign, Bytes.hex, String.toList_ofList, spelling, ← isLater, same]
    next => cases passes
  next => cases passes

/--
A text passes the check of a payload exactly if it is, without the blanks around it and character
for character, the signature that the payload is given.  So what passes has sixty-four characters,
each of them a digit or a lower-case letter from `a` to `f`.
-/
theorem verifies_iff_trim_eq_sign (signer : Signer) (payload : Bytes) (signature : String) :
    (signer.verifies payload signature = true ↔ Text.trim signature = signer.sign payload) ∧
      (signer.verifies payload signature = true ->
        (Text.trim signature).length = 64 ∧
          ∀ letter ∈ (Text.trim signature).toList, isLowerHex letter = true) := by
  refine ⟨⟨trim_eq_sign_of_verifies, verifies_of_trim_eq_sign⟩, fun passes => ?_⟩
  rw [trim_eq_sign_of_verifies passes]
  exact ⟨signer.length_sign payload, fun _ => isLowerHex_of_mem_sign⟩

/-- A signature can be read from the value of a header. -/
theorem valueText?_sign (signer : Signer) (payload : Bytes) :
    Http.valueText? (Bytes.ofText (signer.sign payload)) = some (signer.sign payload) := by
  have readable : (Bytes.ofText (signer.sign payload)).all Http.isTextByte = true := by
    rw [sign, Bytes.hex, Bytes.ofText_ofList, List.all_flatMap, List.all_eq_true]
    intro letter present
    obtain ⟨value, small, rfl⟩ := Bytes.exists_digit_of_mem_hexDigits present
    exact isTextByte_hexDigit value small
  rw [Http.valueText?, if_pos readable, Bytes.text?_ofText]

end Signer
end Telemetry
