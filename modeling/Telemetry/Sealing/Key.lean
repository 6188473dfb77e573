import Telemetry.Sealing.Der
import Telemetry.Sealing.Pem

/-!
# Key pairs

The public and the private half of an RSA key pair, and the reading of both
from labelled texts.
-/

namespace Telemetry
namespace Sealing

/-- The half that seals. -/
structure PublicKey where
  /-- The modulus. -/
  modulus : Nat
  /-- The exponent that seals. -/
  exponent : Nat
deriving DecidableEq

/-- The half that opens. -/
structure PrivateKey where
  /-- The modulus. -/
  modulus : Nat
  /-- The exponent that opens. -/
  exponent : Nat
deriving DecidableEq

/-- The number of bits of a number. -/
def bitLength (value : Nat) : Nat :=
  if value = 0 then 0 else Nat.log2 value + 1

/-- The number of bytes of a number. -/
def byteLength (value : Nat) : Nat :=
  (bitLength value + 7) / 8

/-- Whether an exponent that seals is in the accepted range. -/
def isExponent (exponent : Nat) : Bool :=
  2 ≤ exponent && exponent < 1 <<< 33

/-- The largest accepted public modulus, in bits. -/
def modulusLimit : Nat := 4096

/-- The identifier of the algorithm, with its empty parameters. -/
def algorithm : Bytes :=
  [0x06, 0x09, 0x2a, 0x86, 0x48, 0x86, 0xf7, 0x0d, 0x01, 0x01, 0x01, 0x05, 0x00]

namespace PublicKey

/-- The key of a modulus and an exponent, when both are acceptable. -/
def ofNumbers? (modulus exponent : Nat) : Option PublicKey :=
  if bitLength modulus ≤ modulusLimit ∧ isExponent exponent then some ⟨modulus, exponent⟩
  else none

/-- Reads a key from its encoding: the algorithm, then a bit string with the two numbers. -/
def ofDer? (encoding : Bytes) : Option PublicKey := do
  let fields ← Der.readWhole? Der.sequenceTag encoding
  let (identifier, rest) ← Der.readValue? Der.sequenceTag fields
  if identifier ≠ algorithm then none
  match ← Der.readWhole? Der.bitStringTag rest with
  | 0 :: numbers =>
      match ← Der.readNaturals? 2 (← Der.readWhole? Der.sequenceTag numbers) with
      | [modulus, exponent] => ofNumbers? modulus exponent
      | _ => none
  | _ => none

/-- Reads a key from its labelled text. -/
def ofPem? (text : Bytes) : Option PublicKey := do
  ofDer? (← Pem.decode? "PUBLIC KEY" text)

/-- The size of a sealed block in bytes. -/
def size (key : PublicKey) : Nat := byteLength key.modulus

end PublicKey

namespace PrivateKey

/--
The key of its numbers: the modulus is the product of the two primes, and the
exponents undo each other modulo each prime less one.
-/
def ofNumbers? (modulus sealing opening first second : Nat) : Option PrivateKey :=
  let undoes (prime : Nat) : Bool := sealing * opening % (prime - 1) == 1
  if isExponent sealing ∧ first * second = modulus ∧ undoes first ∧ undoes second then
    some ⟨modulus, opening⟩
  else none

/-- Reads a key from its encoding: a version of zero and eight numbers. -/
def ofDer? (encoding : Bytes) : Option PrivateKey := do
  match ← Der.readNaturals? 9 (← Der.readWhole? Der.sequenceTag encoding) with
  | [0, modulus, sealing, opening, first, second, _, _, _] =>
      ofNumbers? modulus sealing opening first second
  | _ => none

/-- Reads a key from its labelled text. -/
def ofPem? (text : Bytes) : Option PrivateKey := do
  ofDer? (← Pem.decode? "RSA PRIVATE KEY" text)

/-- The size of a sealed block in bytes. -/
def size (key : PrivateKey) : Nat := byteLength key.modulus

end PrivateKey
end Sealing
end Telemetry
