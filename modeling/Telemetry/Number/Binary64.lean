/-!
# Double-precision numbers

A number is held as its sixty-four bits, and all arithmetic on it is exact
arithmetic on natural numbers followed by one rounding.

The *magnitude* of a number is its bits without the sign.  Every finite
magnitude is a whole number of *units*, one unit being the least positive
number `2 ^ (-1074)`: a significand below `2 ^ 53` shifted to the left.
-/

namespace Telemetry

/-- A double-precision number, held as its bits. -/
structure Binary64 where
  /-- Sign, exponent field and fraction field, the sign on top. -/
  bits : UInt64
deriving DecidableEq, Inhabited

namespace Binary64

/-- The weight of the exponent field's last bit: fractions lie below it. -/
def fractionLimit : Nat := 1 <<< 52

/-- The magnitude of infinity; those above it are not numbers. -/
def infiniteMagnitude : Nat := 2047 * fractionLimit

/-- The number of units in one: units are `2 ^ (-1074)`. -/
def unitsInOne : Nat := 1 <<< 1074

/-- The power of ten with a natural exponent, and one for a negative exponent. -/
def powerOfTen (exponent : Int) : Nat :=
  Nat.pow 10 exponent.toNat

/-- The weight of the sign bit: magnitudes lie below it. -/
def signLimit : Nat := 1 <<< 63

/-- The bits without the sign. -/
def magnitude (number : Binary64) : Nat :=
  number.bits.toNat % signLimit

/-- The sign bit. -/
def isNegative (number : Binary64) : Bool :=
  signLimit ≤ number.bits.toNat

/-- The number with a given sign and magnitude. -/
def ofMagnitude (negative : Bool) (magnitude : Nat) : Binary64 :=
  ⟨UInt64.ofNat (magnitude % signLimit + if negative then signLimit else 0)⟩

/-- The one spelling of "not a number" that this library makes itself. -/
def notANumber : Binary64 := ofMagnitude false (infiniteMagnitude + fractionLimit / 2)

/-- Infinity of a given sign. -/
def infinity (negative : Bool) : Binary64 := ofMagnitude negative infiniteMagnitude

/-- Zero of a given sign. -/
def zero (negative : Bool) : Binary64 := ofMagnitude negative 0

/-- Whether the bits stand for no number at all. -/
def isNaN (number : Binary64) : Bool :=
  infiniteMagnitude < number.magnitude

/-- Whether the number is one of the two infinities. -/
def isInfinite (number : Binary64) : Bool :=
  number.magnitude == infiniteMagnitude

/-- Whether the number is neither infinite nor "not a number". -/
def isFinite (number : Binary64) : Bool :=
  number.magnitude < infiniteMagnitude

/-- Whether the number is one of the two zeros. -/
def isZero (number : Binary64) : Bool :=
  number.magnitude == 0

/-- The same number with the other sign. -/
def negate (number : Binary64) : Binary64 :=
  ofMagnitude (!number.isNegative) number.magnitude

/-- How far the significand of a finite magnitude is shifted. -/
def shift (magnitude : Nat) : Nat :=
  magnitude / fractionLimit - 1

/-- The significand of a finite magnitude. -/
def significand (magnitude : Nat) : Nat :=
  magnitude - shift magnitude * fractionLimit

/-- The number of units in a finite magnitude. -/
def units (magnitude : Nat) : Nat :=
  significand magnitude <<< shift magnitude

/-- The quotient rounded to the nearest natural number, a half going to the even neighbour. -/
def divideHalfEven (numerator denominator : Nat) : Nat :=
  let quotient := numerator / denominator
  let twice := 2 * (numerator % denominator)
  if twice < denominator then quotient
  else if denominator < twice then quotient + 1
  else if quotient % 2 = 0 then quotient
  else quotient + 1

/-- The floor of the binary logarithm of a quotient that is at least one, and zero below one. -/
def logQuotient (numerator denominator : Nat) : Nat :=
  Nat.log2 (numerator / denominator)

/--
The magnitude nearest to `numerator / denominator` units, a half going to the
even significand; everything beyond the largest finite number is infinity.
-/
def roundUnits (numerator denominator : Nat) : Nat :=
  let places := logQuotient numerator denominator - 52
  let rounded := divideHalfEven numerator (denominator <<< places)
  min (rounded + places * fractionLimit) infiniteMagnitude

/-- The magnitude nearest to the rational number `numerator / denominator`. -/
def roundRatio (numerator denominator : Nat) : Nat :=
  roundUnits (numerator * unitsInOne) denominator

/-- The number nearest to a natural number. -/
def ofNat (value : Nat) : Binary64 :=
  ofMagnitude false (roundRatio value 1)

/-- The number nearest to an integer; zero is positive. -/
def ofInt (value : Int) : Binary64 :=
  ofMagnitude (value < 0) (roundRatio value.natAbs 1)

/-- The rounded product. -/
def multiply (left right : Binary64) : Binary64 :=
  let negative := left.isNegative != right.isNegative
  if left.isNaN || right.isNaN then notANumber
  else if left.isInfinite || right.isInfinite then
    if left.isZero || right.isZero then notANumber else infinity negative
  else
    ofMagnitude negative
      (roundUnits (units left.magnitude * units right.magnitude) unitsInOne)

/-- The rounded quotient. -/
def divide (left right : Binary64) : Binary64 :=
  let negative := left.isNegative != right.isNegative
  if left.isNaN || right.isNaN then notANumber
  else if left.isInfinite then
    if right.isInfinite then notANumber else infinity negative
  else if right.isInfinite then zero negative
  else if right.isZero then
    if left.isZero then notANumber else infinity negative
  else
    ofMagnitude negative
      (roundUnits (units left.magnitude * unitsInOne) (units right.magnitude))

/-- The natural number nearest to a finite number's absolute value, a half going away from zero. -/
def roundToNat (number : Binary64) : Nat :=
  (2 * units number.magnitude + unitsInOne) / (2 * unitsInOne)

/-- Equality of numbers: the two zeros are equal, and "not a number" equals nothing. -/
def numericallyEqual (left right : Binary64) : Bool :=
  !left.isNaN && !right.isNaN && (left == right || (left.isZero && right.isZero))

end Binary64
end Telemetry
