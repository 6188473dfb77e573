import Telemetry.Number.Shortest

/-!
# Decimal texts of numbers

One function writes a finite number in any of the library's decimal styles; a
style says when the point is written in place and when an exponent is used.
-/

namespace Telemetry

/-- How a finite number is written in decimal. -/
structure DecimalStyle where
  /-- Which way an exact tie between two shortest decimals goes. -/
  tie : Tie
  /-- Whether a first digit of this decimal weight is written without an exponent. -/
  positional : Int -> Bool
  /-- Whether a whole number written without an exponent gets `.0` at its end. -/
  pointZero : Bool

namespace DecimalStyle

/-- Writes digits without an exponent, the point at its place. -/
def writePositional (style : DecimalStyle) (digits : List Char) (exponent : Int) : List Char :=
  if 0 ≤ exponent then
    digits ++ List.replicate exponent.toNat '0' ++ (if style.pointZero then ['.', '0'] else [])
  else
    let places := (-exponent).toNat
    if places < digits.length then
      let whole := digits.length - places
      digits.take whole ++ '.' :: digits.drop whole
    else
      '0' :: '.' :: List.replicate (places - digits.length) '0' ++ digits

/-- Writes one digit, the others after a point, and a signed exponent. -/
def writeScientific (digits : List Char) (weight : Int) : List Char :=
  let mantissa :=
    match digits with
    | [] => []
    | [digit] => [digit]
    | digit :: rest => digit :: '.' :: rest
  let sign := if weight < 0 then '-' else '+'
  mantissa ++ 'e' :: sign :: Decimal.digitChars weight.natAbs

/-- The text of a finite magnitude. -/
def writeMagnitude (style : DecimalStyle) (magnitude : Nat) : List Char :=
  if magnitude = 0 then
    style.writePositional ['0'] 0
  else
    let decimal := Binary64.shortest style.tie magnitude
    let digits := Decimal.digitChars decimal.digits
    let weight := decimal.exponent + digits.length - 1
    if style.positional weight then style.writePositional digits decimal.exponent
    else writeScientific digits weight

/-- The text of a finite number; a minus sign stands in front of negative zero too. -/
def write (style : DecimalStyle) (number : Binary64) : List Char :=
  let text := style.writeMagnitude number.magnitude
  if number.isNegative then '-' :: text else text

end DecimalStyle

namespace Binary64

/-- Plain decimals: shortest digits, never an exponent, no trailing point. -/
def plainStyle : DecimalStyle := ⟨.up, fun _ => true, false⟩

/-- The plain text of any number; the words are `NaN`, `inf` and `-inf`. -/
def plainText (number : Binary64) : String :=
  if number.isNaN then "NaN"
  else if number.isInfinite then
    if number.isNegative then "-inf" else "inf"
  else String.ofList (plainStyle.write number)

end Binary64
end Telemetry
