import Telemetry.Number.Binary64

/-!
# Reading numbers from text

Whole numbers are an optional sign and ASCII digits.  Decimal numbers are an
optional sign, digits around an optional point and an optional exponent, or
one of the words for infinity and "not a number" in any letter case; they are
rounded once, from their exact value.
-/

namespace Telemetry

/-- The value of an ASCII digit. -/
def digitValue (digit : Char) : Nat :=
  digit.toNat - 48

/-- Whether a character is an ASCII digit. -/
def isDigit (letter : Char) : Bool :=
  '0' ≤ letter && letter ≤ '9'

/-- The number that ASCII digits spell in base ten. -/
def digitsValue (digits : List Char) : Nat :=
  digits.foldl (fun total digit => total * 10 + digitValue digit) 0

/-- Reads one or more ASCII digits and nothing else. -/
def readDigits? (text : List Char) : Option Nat :=
  if text ≠ [] ∧ text.all isDigit then some (digitsValue text) else none

/-- Reads an unsigned number below `limit`; a plus sign may stand in front. -/
def readNatural? (limit : Nat) (text : List Char) : Option Nat := do
  let value ← readDigits? (match text with | '+' :: rest => rest | _ => text)
  if value < limit then some value else none

/-- Reads a signed number of sixty-four bits; one sign may stand in front. -/
def readInt64? (text : List Char) : Option Int :=
  match text with
  | '-' :: rest => do
      let value ← readDigits? rest
      if value ≤ 1 <<< 63 then some (-(value : Int)) else none
  | _ => do
      let value ← readNatural? (1 <<< 63) text
      some value

namespace Binary64

/--
The number nearest to `digits * 10 ^ exponent`.  Decimals far beyond the
range are settled by their size alone, so that no huge power is computed.
-/
def ofDecimal (negative : Bool) (digits : Nat) (exponent : Int) : Binary64 :=
  let length : Int := Nat.log2 digits
  if digits = 0 then zero negative
  else if 400 < length * 3 / 10 + exponent then infinity negative
  else if length / 3 + 2 + exponent < -400 then zero negative
  else
    ofMagnitude negative (roundRatio (digits * powerOfTen exponent) (powerOfTen (-exponent)))

/-- The value of an exponent's text: an optional sign and at least one digit. -/
def readExponent? (text : List Char) : Option Int :=
  match text with
  | '-' :: rest => (readDigits? rest).map fun value => -(value : Int)
  | '+' :: rest => (readDigits? rest).map fun value => (value : Int)
  | _ => (readDigits? text).map fun value => (value : Int)

/-- Reads digits around an optional point, then an optional exponent. -/
def readUnsigned? (negative : Bool) (text : List Char) : Option Binary64 :=
  let whole := text.takeWhile isDigit
  let afterWhole := text.dropWhile isDigit
  let (places, afterPlaces) :=
    match afterWhole with
    | '.' :: rest => (rest.takeWhile isDigit, rest.dropWhile isDigit)
    | _ => ([], afterWhole)
  let digits := whole ++ places
  if digits = [] then none
  else
    let exponent? :=
      match afterPlaces with
      | [] => some 0
      | mark :: rest => if mark = 'e' ∨ mark = 'E' then readExponent? rest else none
    exponent?.map fun exponent =>
      ofDecimal negative (digitsValue digits) (exponent - places.length)

/-- Reads a number without its sign: a word in any letter case or a decimal. -/
def readMagnitude? (negative : Bool) (text : List Char) : Option Binary64 :=
  let lowered := text.map Char.toLower
  if lowered = ['n', 'a', 'n'] then
    some (ofMagnitude negative notANumber.magnitude)
  else if lowered = ['i', 'n', 'f'] ∨ lowered = "infinity".toList then
    some (infinity negative)
  else readUnsigned? negative text

/-- Reads a number of any sign. -/
def read? (text : String) : Option Binary64 :=
  match text.toList with
  | '-' :: rest => readMagnitude? true rest
  | '+' :: rest => readMagnitude? false rest
  | letters => readMagnitude? false letters

end Binary64
end Telemetry
