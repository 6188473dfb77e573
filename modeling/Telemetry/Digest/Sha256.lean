import Telemetry.Bytes

/-!
# SHA-256

The hash function of FIPS 180-4 on byte strings, and the keyed hash of
RFC 2104 built on it.
-/

namespace Telemetry
namespace Digest

/-- The eight words of the chaining state. -/
structure State where
  /-- The first word. -/
  a : UInt32
  /-- The second word. -/
  b : UInt32
  /-- The third word. -/
  c : UInt32
  /-- The fourth word. -/
  d : UInt32
  /-- The fifth word. -/
  e : UInt32
  /-- The sixth word. -/
  f : UInt32
  /-- The seventh word. -/
  g : UInt32
  /-- The eighth word. -/
  h : UInt32

/-- The state before the first block. -/
def initialState : State :=
  ⟨0x6a09e667, 0xbb67ae85, 0x3c6ef372, 0xa54ff53a, 0x510e527f, 0x9b05688c, 0x1f83d9ab,
    0x5be0cd19⟩

/-- The constants of the sixty-four rounds. -/
def roundConstants : List UInt32 :=
  [0x428a2f98, 0x71374491, 0xb5c0fbcf, 0xe9b5dba5, 0x3956c25b, 0x59f111f1, 0x923f82a4, 0xab1c5ed5,
    0xd807aa98, 0x12835b01, 0x243185be, 0x550c7dc3, 0x72be5d74, 0x80deb1fe, 0x9bdc06a7, 0xc19bf174,
    0xe49b69c1, 0xefbe4786, 0x0fc19dc6, 0x240ca1cc, 0x2de92c6f, 0x4a7484aa, 0x5cb0a9dc, 0x76f988da,
    0x983e5152, 0xa831c66d, 0xb00327c8, 0xbf597fc7, 0xc6e00bf3, 0xd5a79147, 0x06ca6351, 0x14292967,
    0x27b70a85, 0x2e1b2138, 0x4d2c6dfc, 0x53380d13, 0x650a7354, 0x766a0abb, 0x81c2c92e, 0x92722c85,
    0xa2bfe8a1, 0xa81a664b, 0xc24b8b70, 0xc76c51a3, 0xd192e819, 0xd6990624, 0xf40e3585, 0x106aa070,
    0x19a4c116, 0x1e376c08, 0x2748774c, 0x34b0bcb5, 0x391c0cb3, 0x4ed8aa4a, 0x5b9cca4f, 0x682e6ff3,
    0x748f82ee, 0x78a5636f, 0x84c87814, 0x8cc70208, 0x90befffa, 0xa4506ceb, 0xbef9a3f7, 0xc67178f2]

/-- Rotates a word to the right. -/
def rotateRight (word : UInt32) (places : UInt32) : UInt32 :=
  (word >>> places) ||| (word <<< (32 - places))

/-- The word of four bytes, the most significant first. -/
def wordOf (first second third fourth : UInt8) : UInt32 :=
  (first.toUInt32 <<< 24) ||| (second.toUInt32 <<< 16) ||| (third.toUInt32 <<< 8) |||
    fourth.toUInt32

/-- Takes words off the front of a byte string. -/
def takeWords : (count : Nat) -> Array UInt32 -> Bytes -> Array UInt32 × Bytes
  | count + 1, words, first :: second :: third :: fourth :: rest =>
      takeWords count (words.push (wordOf first second third fourth)) rest
  | _, words, rest => (words, rest)

/-- The next word of a message schedule, from the sixteen words before it. -/
def nextWord (words : Array UInt32) : UInt32 :=
  let back (distance : Nat) : UInt32 := words.getD (words.size - distance) 0
  let early := back 15
  let late := back 2
  let small := rotateRight early 7 ^^^ rotateRight early 18 ^^^ (early >>> 3)
  let large := rotateRight late 17 ^^^ rotateRight late 19 ^^^ (late >>> 10)
  back 16 + small + back 7 + large

/-- Extends a message schedule by some words. -/
def extendSchedule : (count : Nat) -> Array UInt32 -> Array UInt32
  | 0, words => words
  | count + 1, words => extendSchedule count (words.push (nextWord words))

/-- One round with the sum of its constant and its word. -/
def round (state : State) (input : UInt32) : State :=
  let mixE := rotateRight state.e 6 ^^^ rotateRight state.e 11 ^^^ rotateRight state.e 25
  let choice := (state.e &&& state.f) ^^^ ((~~~ state.e) &&& state.g)
  let first := state.h + mixE + choice + input
  let mixA := rotateRight state.a 2 ^^^ rotateRight state.a 13 ^^^ rotateRight state.a 22
  let majority := (state.a &&& state.b) ^^^ (state.a &&& state.c) ^^^ (state.b &&& state.c)
  ⟨first + (mixA + majority), state.a, state.b, state.c, state.d + first, state.e, state.f,
    state.g⟩

/-- The rounds of a schedule, from the word at `position` on. -/
def rounds (schedule : Array UInt32) : (position : Nat) -> List UInt32 -> State -> State
  | _, [], state => state
  | position, constant :: constants, state =>
      rounds schedule (position + 1) constants
        (round state (constant + schedule.getD position 0))

/-- The state after a block of sixteen words. -/
def compress (state : State) (block : Array UInt32) : State :=
  let next := rounds (extendSchedule 48 block) 0 roundConstants state
  ⟨state.a + next.a, state.b + next.b, state.c + next.c, state.d + next.d, state.e + next.e,
    state.f + next.f, state.g + next.g, state.h + next.h⟩

/-- The state after a number of blocks of sixty-four bytes. -/
def absorb : (blocks : Nat) -> State -> Bytes -> State
  | 0, state, _ => state
  | blocks + 1, state, bytes =>
      let (block, rest) := takeWords 16 #[] bytes
      absorb blocks (compress state block) rest

/-- The number of zero bytes between the end mark and the length. -/
def paddingZeros (length : Nat) : Nat :=
  (119 - length % 64) % 64

/-- A message with its end mark, zeros and length in bits. -/
def pad (message : Bytes) : Bytes :=
  message ++ 0x80 :: List.replicate (paddingZeros message.length) 0
    ++ Bytes.ofNatBig 8 (8 * message.length)

/-- The four bytes of a word, the most significant first. -/
def wordBytes (word : UInt32) : Bytes :=
  [(word >>> 24).toUInt8, (word >>> 16).toUInt8, (word >>> 8).toUInt8, word.toUInt8]

/-- The bytes of a state. -/
def State.bytes (state : State) : Bytes :=
  [state.a, state.b, state.c, state.d, state.e, state.f, state.g, state.h].flatMap wordBytes

/-- The SHA-256 hash of a message. -/
def sha256 (message : Bytes) : Bytes :=
  let padded := pad message
  (absorb (padded.length / 64) initialState padded).bytes

@[simp] theorem length_sha256 (message : Bytes) : (sha256 message).length = 32 := by
  simp [sha256, State.bytes, wordBytes]

/-- The key of a keyed hash as one block: a longer key is hashed first. -/
def blockKey (key : Bytes) : Bytes :=
  let short := if 64 < key.length then sha256 key else key
  short ++ List.replicate (64 - short.length) 0

/-- The keyed hash HMAC-SHA256 of a message. -/
def hmac (key message : Bytes) : Bytes :=
  let block := blockKey key
  let inner := sha256 (block.map (· ^^^ 0x36) ++ message)
  sha256 (block.map (· ^^^ 0x5c) ++ inner)

@[simp] theorem length_hmac (key message : Bytes) : (hmac key message).length = 32 :=
  length_sha256 _

end Digest
end Telemetry
