import Telemetry.Digest.Sha256
import Telemetry.Sealing.Key

/-!
# Sealed blocks

One block of at most `size - 66` bytes is padded with optimal asymmetric
padding over SHA-256 and raised to the exponent of a key.
-/

namespace Telemetry
namespace Sealing

/-- The length of a hash. -/
def hashLength : Nat := 32

/-- The bytes of a block that carry no message. -/
def overhead : Nat := 2 * hashLength + 2

/-- The power of a base modulo a number, by squaring. -/
def powerMod (base exponent modulus : Nat) : Nat :=
  if exponent = 0 then 1 % modulus
  else
    let half := powerMod base (exponent / 2) modulus
    let square := half * half % modulus
    if exponent % 2 = 1 then square * base % modulus else square
termination_by exponent
decreasing_by omega

/-- The mask of a seed, of a given length. -/
def mask (seed : Bytes) (length : Nat) : Bytes :=
  let blocks := (List.range (length / hashLength + 1)).map fun counter =>
    Digest.sha256 (seed ++ Bytes.ofNatBig 4 counter)
  blocks.flatten.take length

/-- Adds a mask to bytes, bit by bit. -/
def applyMask (bytes mask : Bytes) : Bytes :=
  List.zipWith (· ^^^ ·) bytes mask

/-- The hash of the empty label. -/
def labelHash : Bytes := Digest.sha256 []

/-- The padded block of a message that fits; `seed` is as long as a hash. -/
def padBlock (size : Nat) (seed message : Bytes) : Bytes :=
  let zeros := List.replicate (size - overhead - message.length) 0
  let data := labelHash ++ zeros ++ 1 :: message
  let maskedData := applyMask data (mask seed data.length)
  let maskedSeed := applyMask seed (mask maskedData hashLength)
  0 :: maskedSeed ++ maskedData

/-- The message of a padded block, if the padding is right. -/
def unpadBlock? (block : Bytes) : Option Bytes :=
  match block with
  | 0 :: masked =>
      let maskedSeed := masked.take hashLength
      let maskedData := masked.drop hashLength
      let seed := applyMask maskedSeed (mask maskedData hashLength)
      let data := applyMask maskedData (mask seed maskedData.length)
      if data.take hashLength = labelHash then
        match (data.drop hashLength).dropWhile (· == 0) with
        | 1 :: message => some message
        | _ => none
      else none
  | _ => none

/-- Seals one block, if the message fits. -/
def PublicKey.sealBlock? (key : PublicKey) (seed message : Bytes) : Option Bytes :=
  if message.length + overhead ≤ key.size then
    let value := Bytes.toNatBig (padBlock key.size seed message)
    some (Bytes.ofNatBig key.size (powerMod value key.exponent key.modulus))
  else none

/-- Opens one block, if it was sealed for this key. -/
def PrivateKey.openBlock? (key : PrivateKey) (block : Bytes) : Option Bytes :=
  let value := Bytes.toNatBig block
  if overhead ≤ key.size ∧ value < key.modulus then
    unpadBlock? (Bytes.ofNatBig key.size (powerMod value key.exponent key.modulus))
  else none

end Sealing
end Telemetry
