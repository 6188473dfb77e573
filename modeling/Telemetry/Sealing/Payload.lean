import Telemetry.Sealing.Block

/-!
# Sealed payloads

A payload of any length is cut into messages that fit a block; the sealed
payload is the row of the sealed blocks.  The empty payload is one block.
-/

namespace Telemetry
namespace Sealing

/-- Why a payload could not be sealed or opened. -/
inductive SealError where
  /-- The length is no positive multiple of the block size. -/
  | truncated (length blockSize : Nat)
  /-- A block was not sealed for the key. -/
  | cannotOpen
  /-- The key is too small for any message. -/
  | cannotSeal
deriving DecidableEq

/-- The wording of a refusal. -/
def SealError.message : SealError -> String
  | .truncated length blockSize =>
      "ciphertext length " ++ toString length ++ " is not a multiple of the key size "
        ++ toString blockSize
  | .cannotOpen => "failed to decrypt data: decryption error"
  | .cannotSeal => "failed to encrypt data: message too long"

/-- The most bytes of a message that fit a block of some size; at least one. -/
def messageLimit (size : Nat) : Nat :=
  max 1 (size - overhead)

/-- Cuts bytes into pieces of `width + 1` bytes and a shorter last one. -/
def pieces (width : Nat) (bytes : Bytes) : List Bytes :=
  match bytes with
  | [] => []
  | byte :: rest => (byte :: rest.take width) :: pieces width (rest.drop width)
termination_by bytes.length
decreasing_by
  simp only [List.length_cons, List.length_drop]
  omega

/-- The messages of a payload. -/
def messages (size : Nat) (payload : Bytes) : List Bytes :=
  if payload = [] then [[]] else pieces (messageLimit size - 1) payload

/-- Seals a row of messages, each with a seed of its own. -/
def sealAll (sealBlock : Bytes -> Bytes -> Option Bytes) (seeds : Nat -> Bytes) :
    (position : Nat) -> List Bytes -> Except SealError Bytes
  | _, [] => .ok []
  | position, message :: rest =>
      match sealBlock (seeds position) message with
      | none => .error .cannotSeal
      | some block =>
          match sealAll sealBlock seeds (position + 1) rest with
          | .error error => .error error
          | .ok blocks => .ok (block ++ blocks)

/-- Seals a payload. -/
def PublicKey.sealPayload (key : PublicKey) (seeds : Nat -> Bytes) (payload : Bytes) :
    Except SealError Bytes :=
  sealAll key.sealBlock? seeds 0 (messages key.size payload)

/-- Opens a row of blocks. -/
def openAll (openBlock : Bytes -> Option Bytes) : List Bytes -> Except SealError Bytes
  | [] => .ok []
  | block :: rest =>
      match openBlock block with
      | none => .error .cannotOpen
      | some message =>
          match openAll openBlock rest with
          | .error error => .error error
          | .ok messages => .ok (message ++ messages)

/-- Opens a sealed payload. -/
def PrivateKey.openPayload (key : PrivateKey) (payload : Bytes) : Except SealError Bytes :=
  if payload = [] ∨ payload.length % key.size ≠ 0 then
    .error (.truncated payload.length key.size)
  else openAll key.openBlock? (pieces (key.size - 1) payload)

end Sealing
end Telemetry
