import Telemetry.Number.Format
import Telemetry.Number.Reading
import Telemetry.Text.Blank
import Telemetry.Text.Quoted

/-!
# Spans of time

A span is a number of nanoseconds of less than `2 ^ 64` seconds.  Its written
form is a row of amounts with units, such as `1h30m` or `1.5s`; every amount is
a decimal that is rounded to whole nanoseconds by itself.
-/

namespace Telemetry

/-- A span of time. -/
structure TimeSpan where
  /-- The length in nanoseconds. -/
  nanoseconds : Nat
deriving DecidableEq

namespace TimeSpan

/-- Nanoseconds in a second. -/
def perSecond : Nat := 1000000000

/-- Spans are shorter than this number of nanoseconds. -/
def limit : Nat := UInt64.size * perSecond

/-- The empty span. -/
def zero : TimeSpan := ⟨0⟩

/-- The span of whole seconds. -/
def ofSeconds (seconds : Nat) : TimeSpan := ⟨seconds * perSecond⟩

/-- The span of whole milliseconds. -/
def ofMilliseconds (milliseconds : Nat) : TimeSpan := ⟨milliseconds * 1000000⟩

/-- The whole seconds of a span. -/
def seconds (span : TimeSpan) : Nat := span.nanoseconds / perSecond

/-- The nanoseconds of a span beyond its whole seconds. -/
def subsecond (span : TimeSpan) : Nat := span.nanoseconds % perSecond

/-- Whether a character belongs to an amount: a digit or the point. -/
def isAmountLetter (letter : Char) : Bool :=
  isDigit letter || letter == '.'

/-- The nanoseconds in a unit. -/
def unitNanoseconds? (unit : List Char) : Option Nat :=
  if unit = ['m', 's'] then some 1000000
  else if unit = ['s'] then some perSecond
  else if unit = ['m'] then some (60 * perSecond)
  else if unit = ['h'] then some (3600 * perSecond)
  else none

/--
The nanoseconds of an amount of a unit: the rounded product of doubles, again
rounded to a whole number.  More than `2 ^ 64` is refused, and `2 ^ 64` itself
counts as one less.
-/
def amountNanoseconds? (amount unit : List Char) : Option Nat := do
  let number ← Binary64.readUnsigned? false amount
  let scale ← unitNanoseconds? unit
  let product := number.multiply (Binary64.ofNat scale)
  if product.isFinite && product.roundToNat ≤ UInt64.size then
    some (min product.roundToNat (UInt64.size - 1))
  else none

/-- Adds the amounts of a text to a total. -/
def sumAmounts? (total : Nat) (text : List Char) : Option Nat :=
  if text = [] then some total
  else
    match _ : text.dropWhile isAmountLetter with
    | [] => none
    | first :: rest =>
        let unit := first :: rest.takeWhile (!isAmountLetter ·)
        match amountNanoseconds? (text.takeWhile isAmountLetter) unit with
        | none => none
        | some amount =>
            if total + amount < limit then
              sumAmounts? (total + amount) (rest.dropWhile (!isAmountLetter ·))
            else none
termination_by text.length
decreasing_by
  have within := (List.dropWhile_sublist isAmountLetter (l := text)).length_le
  have after := (List.dropWhile_sublist (!isAmountLetter ·) (l := rest)).length_le
  rw [‹text.dropWhile isAmountLetter = _›, List.length_cons] at within
  omega

/-- Reads a span; blanks around it are ignored, and it has at least one amount. -/
def read? (text : String) : Option TimeSpan :=
  let letters := Text.trimLetters text.toList
  if letters = [] then none else (sumAmounts? 0 letters).map TimeSpan.mk

/-- The wording of the refusal of a text. -/
def refusal (text : String) : String :=
  "invalid duration: " ++ Text.quoted text

/-- Nine digits with leading zeros, without the zeros at their end. -/
def fractionDigits (width value : Nat) : List Char :=
  let digits := Decimal.digitChars value
  let padded := List.replicate (width - digits.length) '0' ++ digits
  (padded.reverse.dropWhile (· == '0')).reverse

/-- A whole number with a fraction of some digits, and a unit. -/
def withUnit (whole width fraction : Nat) (unit : String) : String :=
  let point := if fraction = 0 then [] else '.' :: fractionDigits width fraction
  String.ofList (Decimal.digitChars whole ++ point) ++ unit

/-- The shown text of a span: in the largest unit of which it holds at least one. -/
def display (span : TimeSpan) : String :=
  let nanoseconds := span.nanoseconds
  if perSecond ≤ nanoseconds then withUnit span.seconds 9 span.subsecond "s"
  else if 1000000 ≤ nanoseconds then
    withUnit (nanoseconds / 1000000) 6 (nanoseconds % 1000000) "ms"
  else if 1000 ≤ nanoseconds then
    withUnit (nanoseconds / 1000) 3 (nanoseconds % 1000) (String.ofList [Char.ofNat 0xb5, 's'])
  else withUnit nanoseconds 0 0 "ns"

end TimeSpan
end Telemetry
