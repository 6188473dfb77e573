import Telemetry.Proofs.Json.Record
import Telemetry.Proofs.Number.Exact

/-!
# Short decimals are read exactly

A decimal whose significand has fifty-three bits and whose power of ten is the
twenty-second at most is read as the number that is nearest to it, because both
parts are exact.  If a number is written as such a decimal, it comes back.
-/

namespace Telemetry
namespace Json

open Bytes Binary64

/-- A decimal whose parts are exact: a significand of fifty-three bits, and an exponent of ten that
is not far from zero. -/
def IsShort (decimal : Decimal) : Prop :=
  decimal.digits ≤ 2 ^ 53 ∧ decimal.exponent.natAbs ≤ 22

instance (decimal : Decimal) : Decidable (IsShort decimal) :=
  inferInstanceAs (Decidable (_ ∧ _))

/-- A short decimal is scaled to the number that is nearest to it. -/
theorem scaleByTen_of_isShort
    {decimal : Decimal} {magnitude : Nat}
    (short : IsShort decimal)
    (finite : magnitude < infiniteMagnitude)
    (nearest : roundRatio (decimal.digits * powerOfTen decimal.exponent)
      (powerOfTen (-decimal.exponent)) = magnitude) :
    scaleByTen (ofNat decimal.digits) decimal.exponent = .ok (ofMagnitude false magnitude) := by
  obtain ⟨digits, exponent⟩ := decimal
  obtain ⟨few, near⟩ := short
  dsimp only at *
  have exact := isExact_powerOfTen near
  rw [scaleByTen, if_pos (by omega)]
  unfold powerOfTen at nearest
  rcases Int.lt_or_le exponent 0 with negative | nonnegative
  · rw [show exponent.toNat = 0 by omega, show (-exponent).toNat = exponent.natAbs by omega,
      Nat.pow_eq, Nat.pow_zero, Nat.mul_one] at nearest
    rw [if_neg (by omega), tenTo, divide_ofNat (isExact_of_le few) exact
      (Nat.pos_iff_ne_zero.mp (Nat.pow_pos (by decide))), nearest]
  · rw [show exponent.toNat = exponent.natAbs by omega, show (-exponent).toNat = 0 by omega]
      at nearest
    have product : roundRatio (digits * Nat.pow 10 exponent.natAbs) 1 = magnitude := nearest
    have bounded : (ofMagnitude false magnitude).isInfinite = false := by
      refine beq_eq_false_iff_ne.mpr ?_
      rw [magnitude_ofMagnitude finite.le]
      exact finite.ne
    rw [if_pos nonnegative, tenTo, multiply_ofNat (isExact_of_le few) exact, product]
    dsimp only
    rw [bounded]
    rfl

/-- A short decimal is read as the number of its sign that is nearest to it. -/
theorem realOfParts_of_isShort
    {decimal : Decimal} {magnitude : Nat}
    (short : IsShort decimal)
    (finite : magnitude < infiniteMagnitude)
    (nearest : roundRatio (decimal.digits * powerOfTen decimal.exponent)
      (powerOfTen (-decimal.exponent)) = magnitude)
    (positive : Bool) :
    realOfParts positive decimal.digits decimal.exponent =
      .ok (ofMagnitude (!positive) magnitude) := by
  rw [realOfParts, scaleByTen_of_isShort short finite nearest]
  cases positive with
  | true => rfl
  | false =>
      dsimp only
      rw [negate_ofMagnitude finite.le]
      rfl

/-- A decimal stands for a quotient of quarter units in the interval of a number. -/
def LiesIn (decimal : Decimal) (interval : RoundingInterval) : Prop :=
  interval.Contains (4 * (decimal.digits * powerOfTen decimal.exponent * unitsInOne))
    (powerOfTen (-decimal.exponent))

/-- A point behind a whole number does not change what it stands for. -/
theorem LiesIn.withPoint
    {decimal : Decimal} {interval : RoundingInterval}
    (inside : LiesIn decimal interval) :
    LiesIn (withPoint decimal) interval := by
  unfold Json.withPoint
  split
  next whole =>
    have ten : powerOfTen (- -1) = 10 ∧ powerOfTen (-1) = 1 := by decide
    have one : powerOfTen (-decimal.exponent) = 1 := by
      unfold powerOfTen
      rw [show (-decimal.exponent).toNat = 0 by omega]
    have scaled := inside.mul_right (show 0 < 10 by decide)
    rw [one, Nat.one_mul] at scaled
    have product : 4 * (decimal.digits * 10 ^ decimal.exponent.toNat * 10 * 1 * unitsInOne) =
        4 * (decimal.digits * powerOfTen decimal.exponent * unitsInOne) * 10 := by
      unfold powerOfTen
      rw [Nat.pow_eq]
      ring
    unfold LiesIn
    dsimp only
    rw [ten.1, ten.2, product]
    exact scaled
  next => exact inside

/-- The shortest decimal of a finite magnitude lies in its interval. -/
theorem liesIn_shortest
    {magnitude : Nat}
    (finite : magnitude < infiniteMagnitude)
    (tie : Tie) :
    LiesIn (shortest tie magnitude) (roundingInterval magnitude) := by
  unfold LiesIn
  rw [quarterUnits_eq]
  exact (shortest_spec finite tie).2

/-- The decimal that is gathered from the text of a finite magnitude lies in its interval. -/
theorem liesIn_gathered
    {magnitude : Nat}
    (finite : magnitude < infiniteMagnitude) :
    LiesIn (gathered magnitude) (roundingInterval magnitude) := by
  rcases gathered_cases magnitude with ⟨zero, isZero⟩ | ⟨-, pointed | plain⟩
  · rw [isZero, zero]
    exact ⟨by decide +kernel, by decide +kernel⟩
  · rw [pointed]
    exact (liesIn_shortest finite _).withPoint
  · rw [plain]
    exact liesIn_shortest finite _

/-- A decimal in the interval of a finite number is nearest to it. -/
theorem LiesIn.nearest
    {decimal : Decimal} {magnitude : Nat}
    (inside : LiesIn decimal (roundingInterval magnitude))
    (finite : magnitude < infiniteMagnitude) :
    roundRatio (decimal.digits * powerOfTen decimal.exponent) (powerOfTen (-decimal.exponent)) =
      magnitude :=
  roundUnits_eq_of_contains finite (powerOfTen_pos _) inside

/-- What a reader makes of the text of a number: the decimal in it, scaled with the roundings of a
reader.  A number that is not finite has no such text. -/
def readBack? (value : Binary64) : Option Binary64 :=
  if value.isFinite then
    (realOfParts (!value.isNegative) (gathered value.magnitude).digits
      (gathered value.magnitude).exponent).toOption
  else none

theorem readBack?_of_not_finite
    {value : Binary64}
    (notFinite : value.isFinite = false) :
    readBack? value = none := by
  rw [readBack?, notFinite]
  rfl

/-- The text of a finite number is read as some number. -/
theorem exists_readBack?
    {value : Binary64}
    (finite : value.isFinite = true) :
    ∃ back, readBack? value = some back ∧ ReadsAs real (ofText (numberText value)) back := by
  obtain ⟨back, scaled, reads⟩ := exists_real finite
  refine ⟨back, ?_, reads⟩
  rw [readBack?, if_pos finite, scaled]
  rfl

/-- A number comes back from its text exactly if it is finite. -/
theorem isSome_readBack?_iff (value : Binary64) :
    (readBack? value).isSome = true ↔ value.isFinite = true := by
  cases finite : value.isFinite with
  | true =>
      obtain ⟨back, isBack, -⟩ := exists_readBack? finite
      rw [isBack]
      exact iff_of_true rfl rfl
  | false =>
      rw [readBack?_of_not_finite finite]
      exact Iff.rfl

/-- A finite number that is written as a short decimal. -/
def IsWrittenShort (value : Binary64) : Prop :=
  value.isFinite = true ∧ IsShort (gathered value.magnitude)

instance (value : Binary64) : Decidable (IsWrittenShort value) :=
  inferInstanceAs (Decidable (_ ∧ _))

/-- A number that is written as a short decimal is read back. -/
theorem readBack?_of_isWrittenShort {value : Binary64} (short : IsWrittenShort value) :
    readBack? value = some value := by
  have bounded := of_decide_eq_true short.1
  have nearest := realOfParts_of_isShort short.2 bounded
    ((liesIn_gathered bounded).nearest bounded) (!value.isNegative)
  rw [Bool.not_not, ofMagnitude_self] at nearest
  rw [readBack?, if_pos short.1, nearest]
  rfl

end Json
end Telemetry
