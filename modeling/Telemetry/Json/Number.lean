import Telemetry.Json.Scan

/-!
# Reading JSON numbers

The digits of a number are gathered into a significand of sixty-four bits;
digits that no longer fit are dropped and counted in the exponent.  The
significand becomes a double and is then multiplied or divided once by a power
of ten, so the result is close to the written decimal, and not always the
nearest double.
-/

namespace Telemetry
namespace Json

/-- A number that was read. -/
inductive Number where
  /-- A whole number without a sign, below `2 ^ 64`. -/
  | natural (value : Nat)
  /-- A negative whole number of sixty-four bits. -/
  | negative (value : Int)
  /-- Any other number. -/
  | real (value : Binary64)

/-- What a number is called in a message. -/
def Number.found : Number -> Found
  | .natural value => .whole value
  | .negative value => .whole value
  | .real value => .real value

/-- The double that a number stands for. -/
def Number.toReal : Number -> Binary64
  | .natural value => Binary64.ofNat value
  | .negative value => Binary64.ofInt value
  | .real value => value

/-- The limit of significands. -/
def significandLimit : Nat := UInt64.size

/-- The limit of written exponents: from here on only the sign of the exponent counts. -/
def exponentLimit : Nat := 1 <<< 31

/-- Whether a byte is an ASCII digit. -/
def isDigitByte (byte : UInt8) : Bool :=
  0x30 ≤ byte && byte ≤ 0x39

/-- The value of an ASCII digit. -/
def digitByteValue (byte : UInt8) : Nat :=
  byte.toNat - 48

/-- The value of ASCII digits in base ten. -/
def digitBytesValue (digits : Bytes) : Nat :=
  digits.foldl (fun total digit => total * 10 + digitByteValue digit) 0

/-- Appends digits to a significand while it fits; returns it with the digits left over. -/
def gather (significand : Nat) : Bytes -> Nat × Bytes
  | [] => (significand, [])
  | digit :: rest =>
      let next := significand * 10 + digitByteValue digit
      if next < significandLimit then gather next rest else (significand, digit :: rest)

/-- The double nearest to a power of ten. -/
def tenTo (exponent : Nat) : Binary64 :=
  Binary64.ofNat (Nat.pow 10 exponent)

/--
Scales a double by a power of ten in one multiplication or division; below
`10 ^ (-308)` it is first divided by `10 ^ 308` as often as needed.
-/
def scaleByTen (value : Binary64) (exponent : Int) : Except Fault Binary64 :=
  if exponent.natAbs ≤ 308 then
    if 0 ≤ exponent then
      let scaled := value.multiply (tenTo exponent.natAbs)
      if scaled.isInfinite then .error .numberOutOfRange else .ok scaled
    else .ok (value.divide (tenTo exponent.natAbs))
  else if value.isZero then .ok value
  else if 0 ≤ exponent then .error .numberOutOfRange
  else scaleByTen (value.divide (tenTo 308)) (exponent + 308)
termination_by (-exponent).toNat
decreasing_by omega

/-- The double of a sign, a significand and an exponent of ten. -/
def realOfParts (positive : Bool) (significand : Nat) (exponent : Int) : Except Fault Binary64 :=
  match scaleByTen (Binary64.ofNat significand) exponent with
  | .error fault => .error fault
  | .ok value => .ok (if positive then value else value.negate)

/-- Reads an exponent of which the letter has been read, and finishes the number. -/
def readExponentPart (positive : Bool) (significand : Nat) (start : Int) (input : Bytes) :
    Result Number :=
  let (up, digitsOn) :=
    match input with
    | [] => (true, [])
    | sign :: rest =>
        if sign = 0x2b then (true, rest) else if sign = 0x2d then (false, rest) else (true, input)
  match digitsOn with
  | [] => .error .endOfValue
  | first :: _ =>
      if isDigitByte first then
        let written := digitBytesValue (digitsOn.takeWhile isDigitByte)
        let rest := digitsOn.dropWhile isDigitByte
        if exponentLimit ≤ written then
          if significand ≠ 0 ∧ up then .error .numberOutOfRange
          else .ok (.real (Binary64.zero !positive), rest)
        else
          let exponent := if up then start + written else start - written
          match realOfParts positive significand exponent with
          | .error fault => .error fault
          | .ok value => .ok (.real value, rest)
      else .error .invalidNumber

/-- Finishes a number that is not whole: an exponent may follow. -/
def readRealEnd (positive : Bool) (significand : Nat) (exponent : Int) (input : Bytes) :
    Result Number :=
  let finished : Result Number :=
    match realOfParts positive significand exponent with
    | .error fault => .error fault
    | .ok value => .ok (.real value, input)
  match input with
  | [] => finished
  | mark :: rest =>
      if mark = 0x65 ∨ mark = 0x45 then readExponentPart positive significand exponent rest
      else finished

/-- Reads the places of which the point has been read, and finishes the number. -/
def readPlaces (positive : Bool) (significand : Nat) (start : Int) (input : Bytes) :
    Result Number :=
  match input with
  | [] => .error .endOfValue
  | first :: _ =>
      if isDigitByte first then
        let places := input.takeWhile isDigitByte
        let (gathered, dropped) := gather significand places
        let exponent := start - (places.length - dropped.length : Nat)
        readRealEnd positive gathered exponent (input.dropWhile isDigitByte)
      else .error .invalidNumber

/-- A whole number of a sign and a significand; negative zero and what does not fit are real. -/
def wholeNumber (positive : Bool) (significand : Nat) : Number :=
  if positive then .natural significand
  else if significand = 0 ∨ 1 <<< 63 < significand then
    .real (Binary64.ofNat significand).negate
  else .negative (-(significand : Int))

/-- Reads a number of which the sign has been read. -/
def readNumber (positive : Bool) (input : Bytes) : Result Number :=
  match input with
  | [] => .error .endOfValue
  | first :: _ =>
      if isDigitByte first then
        let whole := input.takeWhile isDigitByte
        let rest := input.dropWhile isDigitByte
        if first = 0x30 ∧ 1 < whole.length then .error .invalidNumber
        else
          let (significand, dropped) := gather 0 whole
          match rest with
          | mark :: after =>
              if mark = 0x2e then readPlaces positive significand dropped.length after
              else if mark = 0x65 ∨ mark = 0x45 ∨ dropped ≠ [] then
                readRealEnd positive significand dropped.length rest
              else .ok (wholeNumber positive significand, rest)
          | [] =>
              if dropped ≠ [] then readRealEnd positive significand dropped.length rest
              else .ok (wholeNumber positive significand, rest)
      else .error .invalidNumber

end Json
end Telemetry
