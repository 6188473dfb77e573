import Telemetry.Bytes
import Telemetry.Json.Fault

/-!
# The pieces of a JSON text

Readers take the bytes that are left and return what they read with the bytes
after it.  This module reads blanks, words and strings.
-/

namespace Telemetry
namespace Json

/-- What a reader returns: a value and the bytes after it, or a refusal. -/
abbrev Result (α : Type) := Except Fault (α × Bytes)

/-- Whether a byte may stand between the pieces of a JSON text. -/
def isSpace (byte : UInt8) : Bool :=
  byte == 0x20 || byte == 0x0a || byte == 0x0d || byte == 0x09

/-- The bytes from the first one that is no blank. -/
def skipSpace : Bytes -> Bytes
  | [] => []
  | byte :: rest => if isSpace byte then skipSpace rest else byte :: rest

/-- Reads the rest of a word of which the first letter has been read. -/
def readWord : (word : List Char) -> Bytes -> Except Fault Bytes
  | [], input => .ok input
  | _ :: _, [] => .error .endOfValue
  | letter :: word, byte :: rest =>
      if byte.toNat = letter.toNat then readWord word rest else .error .expectedWord

/-- The value of a hexadecimal digit given as a byte. -/
def hexByte? (byte : UInt8) : Option Nat :=
  Bytes.hexValue? (Char.ofNat byte.toNat)

/-- Reads the four hexadecimal digits of an escape. -/
def readFourHex : Bytes -> Result Nat
  | first :: second :: third :: fourth :: rest =>
      match hexByte? first, hexByte? second, hexByte? third, hexByte? fourth with
      | some a, some b, some c, some d => .ok (((a * 16 + b) * 16 + c) * 16 + d, rest)
      | _, _, _, _ => .error .invalidEscape
  | _ => .error .endOfText

/-- The UTF-8 encoding of a code point. -/
def encodePoint (point : Nat) : Bytes :=
  Bytes.ofText (String.singleton (Char.ofNat point))

/-- Reads the second half of a surrogate pair, `first` being the value of the first half. -/
def readLowSurrogate (first : Nat) : Bytes -> Result Bytes
  | [] => .error .endOfText
  | mark :: [] => if mark = 0x5c then .error .endOfText else .error .endOfEscape
  | mark :: kind :: rest =>
      if mark ≠ 0x5c then .error .endOfEscape
      else if kind ≠ 0x75 then .error .endOfEscape
      else
        match readFourHex rest with
        | .error fault => .error fault
        | .ok (second, after) =>
            if 0xdc00 ≤ second ∧ second ≤ 0xdfff then
              .ok (encodePoint ((first - 0xd800) * 1024 + (second - 0xdc00) + 0x10000), after)
            else .error .loneSurrogate

/-- Reads the code point of an escape by number. -/
def readPointEscape (input : Bytes) : Result Bytes :=
  match readFourHex input with
  | .error fault => .error fault
  | .ok (point, rest) =>
      if 0xdc00 ≤ point ∧ point ≤ 0xdfff then .error .loneSurrogate
      else if 0xd800 ≤ point ∧ point ≤ 0xdbff then readLowSurrogate point rest
      else .ok (encodePoint point, rest)

/-- The byte that an escape by letter stands for. -/
def letterEscape? (kind : UInt8) : Option UInt8 :=
  match Char.ofNat kind.toNat with
  | '"' => some 0x22
  | '\\' => some 0x5c
  | '/' => some 0x2f
  | 'b' => some 0x08
  | 'f' => some 0x0c
  | 'n' => some 0x0a
  | 'r' => some 0x0d
  | 't' => some 0x09
  | _ => none

/-- Reads an escape of which the backslash has been read. -/
def readEscape : Bytes -> Result Bytes
  | [] => .error .endOfText
  | kind :: rest =>
      match letterEscape? kind with
      | some byte => .ok ([byte], rest)
      | none => if kind = 0x75 then readPointEscape rest else .error .invalidEscape

theorem length_of_readFourHex {input rest : Bytes} {value : Nat}
    (read : readFourHex input = .ok (value, rest)) : rest.length < input.length := by
  unfold readFourHex at read
  split at read
  · split at read
    · cases read
      simp only [List.length_cons]
      omega
    · cases read
  · cases read

theorem length_of_readLowSurrogate {first : Nat} {input rest piece : Bytes}
    (read : readLowSurrogate first input = .ok (piece, rest)) : rest.length < input.length := by
  unfold readLowSurrogate at read
  split at read
  · cases read
  · split at read <;> cases read
  · split at read
    · cases read
    · split at read
      · cases read
      · split at read
        · cases read
        · next readHex =>
          have shorter := length_of_readFourHex readHex
          split at read
          · obtain ⟨-, rfl⟩ := Prod.mk.inj (Except.ok.inj read)
            simp only [List.length_cons]
            omega
          · cases read

/-- An escape takes at least one byte. -/
theorem length_of_readEscape {input rest piece : Bytes}
    (read : readEscape input = .ok (piece, rest)) : rest.length < input.length := by
  unfold readEscape at read
  split at read
  · cases read
  · split at read
    · cases read
      simp
    · split at read
      · unfold readPointEscape at read
        split at read
        · cases read
        · next readHex =>
          have shorter := length_of_readFourHex readHex
          split at read
          · cases read
          · split at read
            · have shorterStill := length_of_readLowSurrogate read
              simp only [List.length_cons]
              omega
            · obtain ⟨-, rfl⟩ := Prod.mk.inj (Except.ok.inj read)
              simp only [List.length_cons]
              omega
      · cases read

/--
Reads the bytes of a string up to its closing quote, `done` being the bytes
read so far, the last one first.
-/
def readTextBytes (done : Bytes) (input : Bytes) : Result Bytes :=
  match input with
  | [] => .error .endOfText
  | byte :: rest =>
      if byte = 0x22 then .ok (done.reverse, rest)
      else if byte = 0x5c then
        match _ : readEscape rest with
        | .error fault => .error fault
        | .ok (piece, after) => readTextBytes (piece.reverse ++ done) after
      else if byte < 0x20 then .error .controlCharacter
      else readTextBytes (byte :: done) rest
termination_by input.length
decreasing_by
  · have shorter := length_of_readEscape ‹readEscape rest = _›
    simp only [List.length_cons]
    omega
  · simp

/-- Reads a string of which the opening quote has been read. -/
def readText (input : Bytes) : Result String :=
  match readTextBytes [] input with
  | .error fault => .error fault
  | .ok (bytes, rest) =>
      match Bytes.text? bytes with
      | some text => .ok (text, rest)
      | none => .error .invalidCodePoint

end Json
end Telemetry
