import Telemetry.Proofs.Number.Magnitude
import Telemetry.Proofs.Number.Nearest

/-!
# Exact numbers

A natural number of fifty-three bits is a number of this precision, and so is a
power of ten up to the twenty-second.  One product or quotient of them is
rounded once.
-/

namespace Telemetry
namespace Binary64

/-- A natural number that is a number of this precision. -/
structure IsExact (value : Nat) : Prop where
  finite : roundRatio value 1 < infiniteMagnitude
  units : units (roundRatio value 1) = value * unitsInOne

/-- A significand of fifty-three bits is exact. -/
theorem isExact_of_le {value : Nat} (short : value ≤ 2 ^ 53) : IsExact value := by
  rcases Nat.lt_or_eq_of_le short with less | rfl
  · obtain ⟨finite, units⟩ := units_roundRatio less (Nat.zero_le 971)
    rw [Nat.pow_zero, Nat.mul_one] at finite units
    exact ⟨finite, units⟩
  · obtain ⟨finite, units⟩ := units_roundRatio (show 2 ^ 52 < 2 ^ 53 by decide)
      (show 1 ≤ 971 by decide)
    exact ⟨finite, units⟩

/-- A power of ten up to the twenty-second is exact. -/
theorem isExact_powerOfTen {exponent : Nat} (near : exponent ≤ 22) :
    IsExact (Nat.pow 10 exponent) := by
  have short : 5 ^ exponent < 2 ^ 53 :=
    (Nat.pow_le_pow_right (by decide) near).trans_lt (by decide)
  obtain ⟨finite, units⟩ := units_roundRatio short (show exponent ≤ 971 by omega)
  rw [← Nat.mul_pow] at finite units
  exact ⟨finite, units⟩

/-- The units of the number that is nearest to a natural number. -/
def nearestUnits (value : Nat) : Nat :=
  units (roundRatio value 1)

/-- A natural number that is not zero has at least the units of one. -/
theorem unitsInOne_le_nearestUnits {value : Nat} (nonzero : value ≠ 0) :
    unitsInOne ≤ nearestUnits value := by
  have one := (isExact_of_le (show 1 ≤ 2 ^ 53 by decide)).units
  rw [Nat.one_mul] at one
  rw [← one]
  exact units_mono (roundUnits_mono
    (Nat.mul_le_mul_right _ (Nat.pos_iff_ne_zero.mpr nonzero)) 1)

theorem roundRatio_ne_zero {value : Nat} (nonzero : value ≠ 0) : roundRatio value 1 ≠ 0 := by
  intro zero
  have large := unitsInOne_le_nearestUnits nonzero
  rw [nearestUnits, zero] at large
  exact absurd (large.trans (Nat.le_of_eq (by decide))) unitsInOne_pos.not_ge

namespace IsExact

variable {value : Nat}

/-- An exact number is finite. -/
theorem isFinite_ofNat (exact : IsExact value) : (ofNat value).isFinite = true := by
  rw [isFinite, magnitude_ofNat]
  exact decide_eq_true exact.finite

/-- An exact number is rounded to itself. -/
theorem roundToNat_ofNat (exact : IsExact value) : (ofNat value).roundToNat = value := by
  have twice : 2 * (value * unitsInOne) = value * (2 * unitsInOne) := Nat.mul_left_comm ..
  have positive := unitsInOne_pos
  rw [roundToNat, magnitude_ofNat, exact.units, twice, Nat.add_comm,
    Nat.add_mul_div_right _ _ (by omega), Nat.div_eq_of_lt (by omega), Nat.zero_add]

end IsExact

/-- The product of exact numbers is the one that is nearest to it. -/
theorem multiply_ofNat
    {left right : Nat}
    (leftExact : IsExact left)
    (rightExact : IsExact right) :
    (ofNat left).multiply (ofNat right) = ofMagnitude false (roundRatio (left * right) 1) := by
  have product : left * unitsInOne * (right * unitsInOne) =
      left * right * unitsInOne * unitsInOne := by ring
  have scaled := roundUnits_mul_right unitsInOne_pos
    (left * right * unitsInOne) 1
  rw [Nat.one_mul] at scaled
  rw [ofNat, ofNat, multiply_ofMagnitude leftExact.finite rightExact.finite, leftExact.units,
    rightExact.units, product, scaled]
  rfl

/-- The quotient of exact numbers is the one that is nearest to it. -/
theorem divide_ofNat
    {left right : Nat}
    (leftExact : IsExact left)
    (rightExact : IsExact right)
    (nonzero : right ≠ 0) :
    (ofNat left).divide (ofNat right) = ofMagnitude false (roundRatio left right) := by
  rw [ofNat, ofNat, divide_ofMagnitude leftExact.finite rightExact.finite
    (roundRatio_ne_zero nonzero), leftExact.units, rightExact.units,
    roundUnits_mul_right (by decide)]
  rfl

end Binary64
end Telemetry
