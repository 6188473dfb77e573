/-!
# Byte strings

Payloads, files and keys are lists of bytes.  This module fixes their reading
as text, their numbers in either byte order, and their hexadecimal spelling.
-/

namespace Telemetry

/-- A string of bytes. -/
abbrev Bytes := List UInt8

namespace Bytes

/-- The UTF-8 encoding of a text. -/
def ofText (text : String) : Bytes :=
  text.toUTF8.data.toList

/-- The text that a byte string encodes, when it is valid UTF-8. -/
def text? (bytes : Bytes) : Option String :=
  String.fromUTF8? bytes.toByteArray

/-- The number whose base-256 digits are the bytes, the most significant first. -/
def toNatBig (bytes : Bytes) : Nat :=
  bytes.foldl (fun total byte => total * 256 + byte.toNat) 0

/-- The number whose base-256 digits are the bytes, the least significant first. -/
def toNatLittle : Bytes -> Nat
  | [] => 0
  | byte :: rest => byte.toNat + 256 * toNatLittle rest

/-- The last `width` base-256 digits of a number, the least significant first. -/
def ofNatLittle : (width value : Nat) -> Bytes
  | 0, _ => []
  | width + 1, value => UInt8.ofNat (value % 256) :: ofNatLittle width (value / 256)

/-- The last `width` base-256 digits of a number, the most significant first. -/
def ofNatBig (width value : Nat) : Bytes :=
  (ofNatLittle width value).reverse

@[simp] theorem length_ofNatLittle (width value : Nat) :
    (ofNatLittle width value).length = width := by
  induction width generalizing value with
  | zero => rfl
  | succ width ih => simp [ofNatLittle, ih]

@[simp] theorem length_ofNatBig (width value : Nat) :
    (ofNatBig width value).length = width := by
  simp [ofNatBig]

/-- Whether there are at least `count` bytes; it looks at no more of them. -/
def hasAtLeast : (count : Nat) -> Bytes -> Bool
  | 0, _ => true
  | _ + 1, [] => false
  | count + 1, _ :: rest => hasAtLeast count rest

theorem hasAtLeast_iff {count : Nat} {bytes : Bytes} :
    hasAtLeast count bytes ↔ count ≤ bytes.length := by
  induction count generalizing bytes with
  | zero => simp [hasAtLeast]
  | succ count ih =>
    cases bytes with
    | nil => simp [hasAtLeast]
    | cons byte rest => simp [hasAtLeast, ih]

/-- The lower-case hexadecimal digit of a number below sixteen. -/
def hexDigit (value : Nat) : Char :=
  if value < 10 then Char.ofNat (48 + value) else Char.ofNat (87 + value)

/-- The number that a hexadecimal digit of either case stands for. -/
def hexValue? (digit : Char) : Option Nat :=
  if '0' ≤ digit ∧ digit ≤ '9' then some (digit.toNat - 48)
  else if 'a' ≤ digit ∧ digit ≤ 'f' then some (digit.toNat - 87)
  else if 'A' ≤ digit ∧ digit ≤ 'F' then some (digit.toNat - 55)
  else none

/-- The hexadecimal spelling of a byte string, two lower-case digits a byte. -/
def hexDigits (bytes : Bytes) : List Char :=
  bytes.flatMap fun byte => [hexDigit (byte.toNat / 16), hexDigit (byte.toNat % 16)]

/-- The hexadecimal spelling of a byte string as a text. -/
def hex (bytes : Bytes) : String :=
  String.ofList (hexDigits bytes)

/--
Reads pairs of hexadecimal digits, `done` being the bytes read so far, the
last one first; an odd digit or a foreign character is refused.
-/
def readHexPairs? (done : Bytes) : List Char -> Option Bytes
  | [] => some done.reverse
  | [_] => none
  | high :: low :: rest =>
      match hexValue? high, hexValue? low with
      | some upper, some lower => readHexPairs? (UInt8.ofNat (16 * upper + lower) :: done) rest
      | _, _ => none

/-- Reads the hexadecimal spelling of a byte string. -/
def ofHex? (text : String) : Option Bytes :=
  readHexPairs? [] text.toList

end Bytes
end Telemetry
