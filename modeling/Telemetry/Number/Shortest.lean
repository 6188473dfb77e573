import Telemetry.Number.Binary64

/-!
# The shortest decimal that reads back

A decimal `digits * 10 ^ exponent` reads back as a number when it lies in the
interval of values that round to it.  The search walks the decimal grids from
coarse to fine and takes the first grid with a point in the interval, so no
shorter decimal reads back; of two points on that grid it takes the nearer.
-/

namespace Telemetry

/-- What happens to a decimal exactly between two candidates. -/
inductive Tie where
  /-- The larger candidate is taken. -/
  | up
  /-- The candidate with an even last digit is taken. -/
  | even
deriving DecidableEq

/-- A decimal `digits * 10 ^ exponent`. -/
structure Decimal where
  /-- The digits as a number. -/
  digits : Nat
  /-- The power of ten that the last digit counts. -/
  exponent : Int
deriving DecidableEq

namespace Decimal

/-- The decimal digits of a number, the most significant first. -/
def digitChars (value : Nat) : List Char :=
  Nat.toDigits 10 value

end Decimal

namespace Binary64

/-- The interval of quarter units whose values round to a finite magnitude. -/
structure RoundingInterval where
  /-- Four times the units of the number itself. -/
  centre : Nat
  /-- The lower end, in quarter units. -/
  low : Nat
  /-- The upper end, in quarter units. -/
  high : Nat
  /-- Whether the ends belong to the interval. -/
  closed : Bool

/--
The interval that rounds to a magnitude: half a step on both sides, a quarter
step below a power of two, and closed when the significand is even.
-/
def roundingInterval (magnitude : Nat) : RoundingInterval :=
  let step := 1 <<< shift magnitude
  let centre := 4 * units magnitude
  let below :=
    if significand magnitude = fractionLimit ∧ shift magnitude ≠ 0 then step else 2 * step
  ⟨centre, centre - below, centre + 2 * step, significand magnitude % 2 = 0⟩

/-- Compares `candidate * gridScale` with an end of the interval, the end included when closed. -/
def atMost (closed : Bool) (left right : Nat) : Bool :=
  if closed then left ≤ right else left < right

/--
The point of the grid of multiples of `10 ^ exponent` that lies in the
interval and is nearest to its centre, if the grid has one.
-/
def gridPoint? (interval : RoundingInterval) (tie : Tie) (exponent : Int) : Option Nat :=
  -- A grid point `c` stands for `c * scale / spread` quarter units.
  let scale := 4 * unitsInOne * powerOfTen exponent
  let spread := powerOfTen (-exponent)
  let centre := interval.centre * spread
  let below := centre / scale
  let above := below + 1
  let belowFits := below ≠ 0 && atMost interval.closed (interval.low * spread) (below * scale)
  let aboveFits := atMost interval.closed (above * scale) (interval.high * spread)
  match belowFits, aboveFits with
  | false, false => none
  | true, false => some below
  | false, true => some above
  | true, true =>
      let downward := centre - below * scale
      let upward := above * scale - centre
      if downward < upward then some below
      else if upward < downward then some above
      else
        match tie with
        | .up => some above
        | .even => if below % 2 = 0 then some below else some above

/-- The first grid from `exponent` downwards that has a point in the interval. -/
def searchGrids (interval : RoundingInterval) (tie : Tie) :
    (fuel : Nat) -> (exponent : Int) -> Decimal
  | 0, exponent => ⟨0, exponent⟩
  | fuel + 1, exponent =>
      match gridPoint? interval tie exponent with
      | some point => ⟨point, exponent⟩
      | none => searchGrids interval tie fuel (exponent - 1)

/--
An exponent of ten just above that of a positive number of units:
`30103 / 100000` is the decimal logarithm of two to five places.
-/
def coarsestExponent (magnitude : Nat) : Int :=
  ((Nat.log2 (units magnitude) : Int) - 1073) * 30103 / 100000 + 1

/-- The shortest decimal that reads back as a positive finite magnitude. -/
def shortest (tie : Tie) (magnitude : Nat) : Decimal :=
  searchGrids (roundingInterval magnitude) tie 24 (coarsestExponent magnitude)

end Binary64
end Telemetry
