import Telemetry.Digest.Sha256
import Telemetry.Text.Blank

/-!
# Signatures of payloads

A signature is the keyed hash of a payload in lower-case hexadecimal.  Only
that spelling is accepted, with blanks around it allowed.
-/

namespace Telemetry

/-- A key that signs payloads; it is not empty. -/
structure Signer where
  /-- The bytes of the key. -/
  key : Bytes
  /-- An empty key signs nothing. -/
  nonempty : key ≠ []

namespace Signer

/-- The signer of a key text; an empty text turns signing off. -/
def ofText? (key : String) : Option Signer :=
  if nonempty : Bytes.ofText key ≠ [] then some ⟨Bytes.ofText key, nonempty⟩ else none

/-- The signature of a payload. -/
def sign (signer : Signer) (payload : Bytes) : String :=
  Bytes.hex (Digest.hmac signer.key payload)

/-- Whether a character is a lower-case hexadecimal digit. -/
def isLowerHex (letter : Char) : Bool :=
  ('0' ≤ letter && letter ≤ '9') || ('a' ≤ letter && letter ≤ 'f')

/-- Whether a text, without the blanks around it, is the signature of a payload. -/
def verifies (signer : Signer) (payload : Bytes) (signature : String) : Bool :=
  let trimmed := Text.trim signature
  if trimmed.toList.all isLowerHex then
    match Bytes.ofHex? trimmed with
    | some digest => digest == Digest.hmac signer.key payload
    | none => false
  else false

/-- The shown text of a signer, which keeps the key secret. -/
def display (_ : Signer) : String :=
  "Signer \x7b key: \"<redacted>\" \x7d"

end Signer
end Telemetry
