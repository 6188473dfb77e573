import Telemetry.Proofs.Number.Rounding

/-!
# Signs and magnitudes

A number is its sign and its magnitude.  Products and quotients of finite
numbers are rounded once, from the units of their magnitudes, and a product is
finite when one with larger factors is.
-/

namespace Telemetry
namespace Binary64

/-! ## Bits -/

theorem roundUnits_le (numerator denominator : Nat) :
    roundUnits numerator denominator ≤ infiniteMagnitude :=
  Nat.min_le_right _ _

theorem magnitude_ofMagnitude
    {magnitude : Nat}
    (bounded : magnitude ≤ infiniteMagnitude)
    (negative : Bool) :
    (ofMagnitude negative magnitude).magnitude = magnitude := by
  have small : magnitude < signLimit := bounded.trans_lt (by decide)
  unfold signLimit at small
  rw [Nat.shiftLeft_eq] at small
  unfold ofMagnitude Binary64.magnitude signLimit
  rw [UInt64.toNat_ofNat', Nat.shiftLeft_eq, Nat.mod_eq_of_lt small]
  cases negative <;> simp <;> omega

@[simp] theorem magnitude_ofNat (value : Nat) : (ofNat value).magnitude = roundRatio value 1 :=
  magnitude_ofMagnitude (roundUnits_le _ _) false

/-- A number is its sign and its magnitude. -/
theorem ofMagnitude_self (value : Binary64) :
    ofMagnitude value.isNegative value.magnitude = value := by
  obtain ⟨bits⟩ := value
  have below := bits.toNat_lt
  unfold ofMagnitude isNegative magnitude signLimit
  rw [Binary64.mk.injEq, ← UInt64.toNat_inj, UInt64.toNat_ofNat', Nat.shiftLeft_eq]
  dsimp only
  split
  next negative =>
    have least := of_decide_eq_true negative
    omega
  next positive =>
    have less := of_decide_eq_false (Bool.eq_false_iff.mpr positive)
    omega

theorem isNegative_ofMagnitude
    {magnitude : Nat}
    (bounded : magnitude ≤ infiniteMagnitude)
    (negative : Bool) :
    (ofMagnitude negative magnitude).isNegative = negative := by
  have small : magnitude < signLimit := bounded.trans_lt (by decide)
  unfold ofMagnitude isNegative
  unfold signLimit at *
  rw [Nat.shiftLeft_eq] at *
  rw [UInt64.toNat_ofNat']
  cases negative with
  | true => exact decide_eq_true (by simp; omega)
  | false => exact decide_eq_false (by simp; omega)

theorem negate_ofMagnitude
    {magnitude : Nat}
    (bounded : magnitude ≤ infiniteMagnitude) :
    (ofMagnitude false magnitude).negate = ofMagnitude true magnitude := by
  rw [negate, isNegative_ofMagnitude bounded, magnitude_ofMagnitude bounded]
  rfl

/-! ## Products and quotients -/

/-- A finite magnitude is not infinite and not "not a number", and zero only as itself. -/
theorem kinds_ofMagnitude
    {magnitude : Nat}
    (finite : magnitude < infiniteMagnitude) :
    (ofMagnitude false magnitude).isNaN = false ∧
      (ofMagnitude false magnitude).isInfinite = false ∧
      (magnitude ≠ 0 -> (ofMagnitude false magnitude).isZero = false) := by
  unfold isNaN isInfinite isZero
  rw [magnitude_ofMagnitude finite.le]
  exact ⟨decide_eq_false (by omega), beq_eq_false_iff_ne.mpr (by omega),
    beq_eq_false_iff_ne.mpr⟩

/-- The product of finite magnitudes is rounded once. -/
theorem multiply_ofMagnitude
    {left right : Nat}
    (leftFinite : left < infiniteMagnitude)
    (rightFinite : right < infiniteMagnitude) :
    (ofMagnitude false left).multiply (ofMagnitude false right) =
      ofMagnitude false (roundUnits (units left * units right) unitsInOne) := by
  obtain ⟨leftNumber, leftBounded, -⟩ := kinds_ofMagnitude leftFinite
  obtain ⟨rightNumber, rightBounded, -⟩ := kinds_ofMagnitude rightFinite
  unfold multiply
  rw [leftNumber, rightNumber, leftBounded, rightBounded, magnitude_ofMagnitude leftFinite.le,
    magnitude_ofMagnitude rightFinite.le]
  simp [isNegative_ofMagnitude leftFinite.le, isNegative_ofMagnitude rightFinite.le]

/-- The quotient of finite magnitudes is rounded once. -/
theorem divide_ofMagnitude
    {left right : Nat}
    (leftFinite : left < infiniteMagnitude)
    (rightFinite : right < infiniteMagnitude)
    (nonzero : right ≠ 0) :
    (ofMagnitude false left).divide (ofMagnitude false right) =
      ofMagnitude false (roundUnits (units left * unitsInOne) (units right)) := by
  obtain ⟨leftNumber, leftBounded, -⟩ := kinds_ofMagnitude leftFinite
  obtain ⟨rightNumber, rightBounded, notZero⟩ := kinds_ofMagnitude rightFinite
  unfold divide
  rw [leftNumber, rightNumber, leftBounded, rightBounded, notZero nonzero,
    magnitude_ofMagnitude leftFinite.le, magnitude_ofMagnitude rightFinite.le]
  simp [isNegative_ofMagnitude leftFinite.le, isNegative_ofMagnitude rightFinite.le]

theorem isFinite_of_le
    {smaller larger : Nat}
    (atMost : smaller ≤ larger)
    (finite : (ofNat larger).isFinite = true) :
    (ofNat smaller).isFinite = true := by
  have bound := of_decide_eq_true finite
  rw [magnitude_ofNat] at bound
  refine decide_eq_true ?_
  rw [magnitude_ofNat]
  exact (roundUnits_mono (Nat.mul_le_mul_right _ atMost) 1).trans_lt bound

/-- The magnitude of the product of two finite numbers. -/
theorem magnitude_multiply
    {left right : Binary64}
    (leftFinite : left.isFinite = true)
    (rightFinite : right.isFinite = true) :
    (left.multiply right).magnitude =
      roundUnits (units left.magnitude * units right.magnitude) unitsInOne := by
  have leftBound := of_decide_eq_true leftFinite
  have rightBound := of_decide_eq_true rightFinite
  have leftNumber : left.isNaN = false := decide_eq_false (by omega)
  have rightNumber : right.isNaN = false := decide_eq_false (by omega)
  have leftSmall : left.isInfinite = false := beq_eq_false_iff_ne.mpr (by omega)
  have rightSmall : right.isInfinite = false := beq_eq_false_iff_ne.mpr (by omega)
  unfold multiply
  simp only [leftNumber, rightNumber, leftSmall, rightSmall, Bool.or_false, Bool.false_eq_true,
    if_false]
  exact magnitude_ofMagnitude (roundUnits_le _ _) _

/-- A product of natural numbers is finite when one with larger factors is. -/
theorem isInfinite_multiply_ofNat
    {left right leftLimit rightLimit : Nat}
    (leftAtMost : left ≤ leftLimit)
    (rightAtMost : right ≤ rightLimit)
    (leftFinite : (ofNat leftLimit).isFinite = true)
    (rightFinite : (ofNat rightLimit).isFinite = true)
    (bounded : ((ofNat leftLimit).multiply (ofNat rightLimit)).isInfinite = false) :
    ((ofNat left).multiply (ofNat right)).isInfinite = false := by
  have notInfinite := beq_eq_false_iff_ne.mp bounded
  refine beq_eq_false_iff_ne.mpr ?_
  rw [magnitude_multiply leftFinite rightFinite] at notInfinite
  rw [magnitude_multiply (isFinite_of_le leftAtMost leftFinite)
    (isFinite_of_le rightAtMost rightFinite)]
  simp only [magnitude_ofNat] at *
  have rounded {smaller larger : Nat} (atMost : smaller ≤ larger) :
      roundRatio smaller 1 ≤ roundRatio larger 1 :=
    roundUnits_mono (Nat.mul_le_mul_right _ atMost) 1
  have products := roundUnits_mono
    (Nat.mul_le_mul (units_mono (rounded leftAtMost)) (units_mono (rounded rightAtMost)))
    unitsInOne
  have limit := roundUnits_le
    (units (roundRatio leftLimit 1) * units (roundRatio rightLimit 1)) unitsInOne
  omega

end Binary64
end Telemetry
