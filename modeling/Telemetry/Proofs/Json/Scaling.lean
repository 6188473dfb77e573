import Telemetry.Json.Number
import Telemetry.Proofs.Number.Magnitude
import Telemetry.Proofs.Number.Shortest

/-!
# Decimals in range can be read

A reader scales a significand of sixty-four bits by a power of ten with two
roundings.  The result is not infinite for any decimal up to the one that the
largest finite number is written as: rounding keeps the order, so for every
exponent the largest significand decides.
-/

namespace Telemetry
namespace Json

open Binary64

/-- The largest significand of a shortest decimal in range with an exponent. -/
def largestSignificand (exponent : Nat) : Nat :=
  min (largestDecimal / Nat.pow 10 exponent) digitsLimit

/-- The largest significand stays finite with the exponents that bound it. -/
theorem isInfinite_largest :
    ∀ exponent < 309, 290 ≤ exponent -> (tenTo exponent).isFinite = true ∧
      (ofNat (largestSignificand exponent)).isFinite = true ∧
      ((ofNat (largestSignificand exponent)).multiply (tenTo exponent)).isInfinite = false := by
  decide +kernel

/-- A significand in range stays finite. -/
theorem isInfinite_of_isInRange
    {significand exponent : Nat}
    (few : significand ≤ digitsLimit)
    (inRange : IsInRange significand exponent)
    (small : exponent ≤ 308) :
    ((ofNat significand).multiply (tenTo exponent)).isInfinite = false := by
  obtain ⟨tenFinite, largestFinite, bounded⟩ :=
    isInfinite_largest (max exponent 290) (by omega) (Nat.le_max_right _ _)
  refine isInfinite_multiply_ofNat ?_ (Nat.pow_le_pow_right (by decide) (Nat.le_max_left _ _))
    largestFinite tenFinite bounded
  refine Nat.le_min.mpr ⟨?_, few⟩
  rcases Nat.le_total exponent 290 with less | more
  · rw [Nat.max_eq_right less]
    exact few.trans (by decide +kernel)
  · rw [Nat.max_eq_left more]
    refine (Nat.le_div_iff_mul_le (Nat.pow_pos (by decide))).mpr ?_
    simpa [IsInRange, powerOfTen] using inRange

/-- Dividing by a power of ten never fails. -/
theorem exists_scaleByTen_of_neg
    {exponent : Int}
    (negative : exponent < 0)
    (value : Binary64) :
    ∃ scaled, scaleByTen value exponent = .ok scaled := by
  fun_induction scaleByTen value exponent with
  | case1 => omega
  | case2 => omega
  | case3 => exact ⟨_, rfl⟩
  | case4 => exact ⟨_, rfl⟩
  | case5 => omega
  | case6 value exponent far nonzero _ inductionHypothesis =>
      exact inductionHypothesis (by omega)

/-- A decimal in range that is not zero does not have a large exponent. -/
theorem exponent_le_of_isInRange
    {significand : Nat} {exponent : Int}
    (nonzero : significand ≠ 0)
    (inRange : IsInRange significand exponent) :
    exponent ≤ 308 := by
  by_contra large
  have power : powerOfTen (-exponent) = 1 := by
    unfold powerOfTen
    rw [show (-exponent).toNat = 0 by omega]
  have grows : powerOfTen 309 ≤ powerOfTen exponent := powerOfTen_mono (by omega)
  have beyond : largestDecimal < powerOfTen 309 := by decide +kernel
  have atLeast : powerOfTen exponent ≤ significand * powerOfTen exponent :=
    Nat.le_mul_of_pos_left _ (Nat.pos_iff_ne_zero.mpr nonzero)
  unfold IsInRange at inRange
  rw [power, Nat.mul_one] at inRange
  exact Nat.not_lt.mpr inRange (beyond.trans_le (grows.trans atLeast))

/-- A decimal in range can be read. -/
theorem exists_realOfParts
    {significand : Nat} {exponent : Int}
    (nonzero : significand ≠ 0)
    (few : significand ≤ digitsLimit)
    (inRange : IsInRange significand exponent)
    (positive : Bool) :
    ∃ value, realOfParts positive significand exponent = .ok value := by
  have scaled : ∃ scaled, scaleByTen (ofNat significand) exponent = .ok scaled := by
    rcases Int.lt_or_le exponent 0 with negative | nonnegative
    · exact exists_scaleByTen_of_neg negative _
    · have small := exponent_le_of_isInRange nonzero inRange
      obtain ⟨places, rfl⟩ := Int.eq_ofNat_of_zero_le nonnegative
      have finite := isInfinite_of_isInRange few inRange (by omega)
      rw [scaleByTen, if_pos (by omega), if_pos nonnegative]
      simp only [Int.natAbs_natCast, finite]
      exact ⟨_, rfl⟩
  obtain ⟨scaled, isScaled⟩ := scaled
  exact ⟨_, by rw [realOfParts, isScaled]⟩

/-- A decimal with places can be read. -/
theorem exists_realOfParts_of_neg
    {exponent : Int}
    (negative : exponent < 0)
    (positive : Bool)
    (significand : Nat) :
    ∃ value, realOfParts positive significand exponent = .ok value := by
  obtain ⟨scaled, isScaled⟩ := exists_scaleByTen_of_neg negative (ofNat significand)
  exact ⟨_, by rw [realOfParts, isScaled]⟩

end Json
end Telemetry
