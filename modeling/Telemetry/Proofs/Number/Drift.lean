import Mathlib.Algebra.Order.Field.Rat
import Mathlib.Tactic.FieldSimp
import Mathlib.Tactic.GCongr
import Mathlib.Tactic.IntervalCases
import Mathlib.Tactic.Linarith
import Mathlib.Tactic.Qify
import Telemetry.Proofs.Number.Nearest

/-!
# How far rounding drifts

Rounding changes a quotient by half of its last place at most.  A quotient that
differs a little from one in the interval of a number is rounded to a number
that is only a few places away.
-/

namespace Telemetry
namespace Binary64

/-! ## Units by significand and place -/

/-- A significand at a place, up to the one that belongs to the next place already. -/
theorem units_add
    {short places : Nat}
    (atMost : short ≤ 2 ^ 53)
    (normal : places = 0 ∨ 2 ^ 52 ≤ short) :
    units (short + places * fractionLimit) = short * 2 ^ places := by
  rcases Nat.lt_or_eq_of_le atMost with less | rfl
  · have shifted : shift (short + places * fractionLimit) = places := by
      unfold shift
      rw [fractionLimit_eq]
      omega
    rw [units, significand, shifted, Nat.shiftLeft_eq, Nat.add_sub_cancel_right]
  · have shifted : shift (2 ^ 53 + places * fractionLimit) = places + 1 := by
      unfold shift
      rw [fractionLimit_eq]
      omega
    have half : 2 ^ 53 + places * fractionLimit - (places + 1) * fractionLimit = 2 ^ 52 := by
      rw [fractionLimit_eq]
      omega
    rw [units, significand, shifted, half, Nat.shiftLeft_eq, Nat.pow_succ]
    ring

/-- The next number is one place further. -/
theorem units_succ (magnitude : Nat) :
    units (magnitude + 1) = units magnitude + 2 ^ shift magnitude := by
  have small := significand_lt magnitude
  have large := @le_significand magnitude
  have next : magnitude + 1 =
      significand magnitude + 1 + shift magnitude * fractionLimit := by
    have whole := significand_add magnitude
    omega
  rw [fractionLimit_eq] at small large
  rw [next, units_add (by omega) (by omega), units, Nat.shiftLeft_eq]
  ring

/-- Numbers are at least as far apart as their places say. -/
theorem le_units_add (magnitude count : Nat) :
    units magnitude + count * 2 ^ shift magnitude ≤ units (magnitude + count) := by
  induction count with
  | zero => simp
  | succ count inductionHypothesis =>
      have wider : 2 ^ shift magnitude ≤ 2 ^ shift (magnitude + count) :=
        Nat.pow_le_pow_right (by decide)
          (Nat.sub_le_sub_right (Nat.div_le_div_right (Nat.le_add_right _ _)) 1)
      rw [← Nat.add_assoc, units_succ, Nat.succ_mul]
      omega

/-! ## The error of one rounding -/

theorem divideHalfEven_error {denominator : Nat} (positive : 0 < denominator) (numerator : Nat) :
    2 * (divideHalfEven numerator denominator * denominator) ≤ 2 * numerator + denominator ∧
      2 * numerator ≤ 2 * (divideHalfEven numerator denominator * denominator) + denominator := by
  have split := Nat.div_add_mod' numerator denominator
  have small := Nat.mod_lt numerator positive
  have next : (numerator / denominator + 1) * denominator =
      numerator / denominator * denominator + denominator := Nat.succ_mul _ _
  unfold divideHalfEven
  dsimp only
  split_ifs <;> omega

/-- A finite result of rounding is the rounded quotient at some place, which is the last one, or
leaves fifty-three bits of the quotient. -/
theorem exists_place
    {numerator denominator : Nat}
    (finite : roundUnits numerator denominator < infiniteMagnitude) :
    ∃ place,
      units (roundUnits numerator denominator) =
        divideHalfEven numerator (denominator * 2 ^ place) * 2 ^ place ∧
      (place = 0 ∨ 2 ^ 52 * (denominator * 2 ^ place) ≤ numerator) := by
  refine ⟨logQuotient numerator denominator - 52, ?_, ?_⟩
  · have atMost := divideHalfEven_shift_le numerator denominator
    have atLeast := @le_divideHalfEven_shift numerator denominator
    unfold roundUnits at finite ⊢
    dsimp only at finite ⊢
    rw [Nat.min_eq_left (by omega)]
    rw [Nat.shiftLeft_eq] at *
    exact units_add atMost (by omega)
  · by_cases last : logQuotient numerator denominator - 52 = 0
    · exact Or.inl last
    · right
      have nonzero : numerator / denominator ≠ 0 := by
        rintro zero
        simp [logQuotient, zero] at last
      have large : 2 ^ Nat.log2 (numerator / denominator) ≤ numerator / denominator :=
        Nat.log2_self_le nonzero
      have bits : Nat.log2 (numerator / denominator) =
          52 + (logQuotient numerator denominator - 52) := by
        unfold logQuotient at *
        omega
      rw [bits, Nat.pow_add] at large
      have scaled := Nat.mul_le_of_le_div _ _ _ large
      calc
        _ = 2 ^ 52 * 2 ^ (logQuotient numerator denominator - 52) * denominator := by ring
        _ ≤ numerator := scaled

/-- A value lies between two multiples of another one. -/
structure IsNear (low high value exact : ℚ) : Prop where
  atLeast : exact * low ≤ value
  atMost : value ≤ exact * high

namespace IsNear

variable {low high lowToo highToo value exact factor exactFactor : ℚ}

/-- Wider bounds hold as well. -/
theorem widen
    (near : IsNear low high value exact)
    (nonnegative : 0 ≤ exact)
    (lower : lowToo ≤ low)
    (higher : high ≤ highToo) :
    IsNear lowToo highToo value exact where
  atLeast := (mul_le_mul_of_nonneg_left lower nonnegative).trans near.atLeast
  atMost := near.atMost.trans (mul_le_mul_of_nonneg_left higher nonnegative)

/-- The bounds of values that are close one after the other are multiplied. -/
theorem trans
    (near : IsNear low high value factor)
    (nearToo : IsNear lowToo highToo factor exact)
    (nonnegative : 0 ≤ low ∧ 0 ≤ high) :
    IsNear (lowToo * low) (highToo * high) value exact where
  atLeast := by
    rw [← mul_assoc]
    exact (mul_le_mul_of_nonneg_right nearToo.atLeast nonnegative.1).trans near.atLeast
  atMost := by
    rw [← mul_assoc]
    exact near.atMost.trans (mul_le_mul_of_nonneg_right nearToo.atMost nonnegative.2)

/-- The bounds of a product are multiplied. -/
theorem mul
    (near : IsNear low high value exact)
    (nearToo : IsNear lowToo highToo factor exactFactor)
    (nonnegative : 0 ≤ exact ∧ 0 ≤ exactFactor)
    (lowNonnegative : 0 ≤ low ∧ 0 ≤ lowToo) :
    IsNear (low * lowToo) (high * highToo) (value * factor) (exact * exactFactor) := by
  have least := mul_nonneg nonnegative.1 lowNonnegative.1
  have leastToo := mul_nonneg nonnegative.2 lowNonnegative.2
  constructor
  · rw [mul_mul_mul_comm]
    exact mul_le_mul near.atLeast nearToo.atLeast leastToo (least.trans near.atLeast)
  · rw [mul_mul_mul_comm]
    exact mul_le_mul near.atMost nearToo.atMost (leastToo.trans nearToo.atLeast)
      ((least.trans near.atLeast).trans near.atMost)

/-- The bounds stay when both values are multiplied by the same factor. -/
theorem mul_right
    (near : IsNear low high value exact)
    (nonnegative : 0 ≤ factor) :
    IsNear low high (value * factor) (exact * factor) where
  atLeast := by
    rw [mul_right_comm]
    exact mul_le_mul_of_nonneg_right near.atLeast nonnegative
  atMost := by
    rw [mul_right_comm]
    exact mul_le_mul_of_nonneg_right near.atMost nonnegative

/-- The bounds of an inverse are the inverses, the other way round. -/
theorem inv
    (near : IsNear low high value exact)
    (positive : 0 < exact)
    (lowPositive : 0 < low) :
    IsNear high⁻¹ low⁻¹ value⁻¹ exact⁻¹ := by
  have least := mul_pos positive lowPositive
  have some_value := least.trans_le near.atLeast
  constructor
  · rw [← mul_inv]
    exact inv_anti₀ some_value near.atMost
  · rw [← mul_inv]
    exact inv_anti₀ least near.atLeast

end IsNear

/-- Rounding changes a quotient that is not small by one part in `2 ^ 53`. -/
theorem isNear_roundUnits
    {numerator denominator : Nat}
    (positive : 0 < denominator)
    (large : 2 ^ 52 * denominator ≤ numerator)
    (finite : roundUnits numerator denominator < infiniteMagnitude) :
    IsNear (1 - 1 / 2 ^ 53) (1 + 1 / 2 ^ 53) (units (roundUnits numerator denominator))
      (numerator / denominator) := by
  obtain ⟨place, isUnits, fits⟩ := exists_place finite
  obtain ⟨above, below⟩ := divideHalfEven_error
    (Nat.mul_pos positive (Nat.two_pow_pos place)) numerator
  have weight : 2 ^ 52 * (denominator * 2 ^ place) ≤ numerator := by
    rcases fits with rfl | fits
    · rwa [Nat.pow_zero, Nat.mul_one]
    · exact fits
  rw [isUnits]
  qify at *
  constructor
  · rw [div_mul_eq_mul_div, div_le_iff₀ positive]
    linarith
  · rw [div_mul_eq_mul_div, le_div_iff₀ positive]
    linarith

/-! ## Quotients that differ a little -/

/-- A quotient that is not above a number is not rounded above it. -/
theorem roundUnits_le_of_le
    {magnitude numerator denominator : Nat}
    (positive : 0 < denominator)
    (atMost : (numerator : ℚ) / denominator ≤ units magnitude) :
    roundUnits numerator denominator ≤ magnitude := by
  rcases Nat.lt_or_ge magnitude infiniteMagnitude with finite | infinite
  · rw [div_le_iff₀ (by exact_mod_cast positive)] at atMost
    have scaled := roundUnits_mul_right positive (units magnitude) 1
    rw [Nat.one_mul, roundUnits_units finite] at scaled
    rw [← scaled]
    exact roundUnits_mono (by exact_mod_cast atMost) denominator
  · exact (Nat.min_le_right _ _).trans infinite

/-- A quotient that is not below a finite number is not rounded below it. -/
theorem le_roundUnits_of_le
    {magnitude numerator denominator : Nat}
    (finite : magnitude < infiniteMagnitude)
    (positive : 0 < denominator)
    (atLeast : units magnitude ≤ (numerator : ℚ) / denominator) :
    magnitude ≤ roundUnits numerator denominator := by
  rw [le_div_iff₀ (by exact_mod_cast positive)] at atLeast
  have scaled := roundUnits_mul_right positive (units magnitude) 1
  rw [Nat.one_mul, roundUnits_units finite] at scaled
  rw [← scaled]
  exact roundUnits_mono (by exact_mod_cast atLeast) denominator

/-- What lies in the interval of a number, as a rational number. -/
theorem quotient_bounds
    {magnitude numerator denominator : Nat}
    (positive : 0 < denominator)
    (inside : (roundingInterval magnitude).Contains (4 * numerator) denominator) :
    ((significand magnitude : ℚ) - 1 / 2) * 2 ^ shift magnitude ≤ numerator / denominator ∧
      (numerator : ℚ) / denominator ≤ (significand magnitude + 1 / 2) * 2 ^ shift magnitude ∧
      (significand magnitude = fractionLimit -> shift magnitude ≠ 0 ->
        ((significand magnitude : ℚ) - 1 / 4) * 2 ^ shift magnitude ≤
          numerator / denominator) := by
  obtain ⟨low, high, -, power⟩ := bounds_of_contains inside
  rw [Nat.shiftLeft_eq] at low high power
  rw [le_div_iff₀ (by exact_mod_cast positive), div_le_iff₀ (by exact_mod_cast positive),
    le_div_iff₀ (by exact_mod_cast positive)]
  refine ⟨?_, ?_, fun isPower shifted => ?_⟩
  · qify at low
    linarith
  · qify at high
    linarith
  · have quarter := power isPower shifted
    qify at quarter
    linarith

/-- A quotient that exceeds one in the interval of a number by seven parts in `2 ^ 54` at most is
rounded to a number that is four places further at most. -/
theorem roundUnits_le_add_four
    {magnitude numerator denominator exactNumerator exactDenominator : Nat}
    (exactPositive : 0 < exactDenominator)
    (inside : (roundingInterval magnitude).Contains (4 * exactNumerator) exactDenominator)
    (positive : 0 < denominator)
    (near : (numerator : ℚ) / denominator ≤
      exactNumerator / exactDenominator * (1 + 7 / 2 ^ 54)) :
    roundUnits numerator denominator ≤ magnitude + 4 := by
  refine roundUnits_le_of_le positive ?_
  obtain ⟨-, high, -⟩ := quotient_bounds exactPositive inside
  have small := significand_lt magnitude
  have few : (significand magnitude : ℚ) + 1 ≤ 2 ^ 53 := by
    rw [fractionLimit_eq] at small
    exact_mod_cast (show significand magnitude + 1 ≤ 2 ^ 53 by omega)
  have further : (units magnitude : ℚ) + 4 * 2 ^ shift magnitude ≤ units (magnitude + 4) := by
    exact_mod_cast le_units_add magnitude 4
  calc
    (numerator : ℚ) / denominator
        ≤ (significand magnitude + 1 / 2) * 2 ^ shift magnitude * (1 + 7 / 2 ^ 54) :=
      near.trans (mul_le_mul_of_nonneg_right high (by norm_num))
    _ = (significand magnitude + 1 / 2) * (1 + 7 / 2 ^ 54) * 2 ^ shift magnitude := by ring
    _ ≤ (significand magnitude + 4) * 2 ^ shift magnitude := by
      gcongr
      linarith
    _ = units magnitude + 4 * 2 ^ shift magnitude := by
      rw [units, Nat.shiftLeft_eq]
      push_cast
      ring
    _ ≤ units (magnitude + 4) := further

/-- The number four places before another one: the places before a power of two are only half as
wide. -/
theorem units_sub_four
    {magnitude : Nat}
    (enough : 4 ≤ magnitude) :
    (units (magnitude - 4) : ℚ) = (significand magnitude - 4) * 2 ^ shift magnitude ∨
      ∃ before : Nat, before < 4 ∧ shift magnitude ≠ 0 ∧
        significand magnitude = fractionLimit + before ∧
        (units (magnitude - 4) : ℚ) =
          (significand magnitude - (4 + before) / 2) * 2 ^ shift magnitude := by
  have whole := significand_add magnitude
  have small := significand_lt magnitude
  have large := @le_significand magnitude
  rw [fractionLimit_eq] at *
  by_cases plain : shift magnitude = 0 ∨ 2 ^ 52 + 4 ≤ significand magnitude
  · left
    have same : magnitude - 4 =
        significand magnitude - 4 + shift magnitude * fractionLimit := by
      rw [fractionLimit_eq]
      omega
    rw [same, units_add (by omega) (by omega)]
    push_cast [show 4 ≤ significand magnitude by omega]
    rfl
  · obtain ⟨shifted, less⟩ := not_or.mp plain
    obtain ⟨before, isBefore⟩ := Nat.exists_eq_add_of_le (large (by omega))
    obtain ⟨finer, isFiner⟩ := Nat.exists_eq_add_one_of_ne_zero shifted
    refine Or.inr ⟨before, by omega, shifted, isBefore, ?_⟩
    have same : magnitude - 4 = 2 ^ 53 - 4 + before + finer * fractionLimit := by
      rw [fractionLimit_eq]
      rw [isFiner] at whole
      omega
    rw [same, units_add (by omega) (by omega), isFiner, isBefore]
    push_cast
    ring

/-- A quotient that falls short of one in the interval of a number by seven parts in `2 ^ 54` at
most is rounded to a number that is four places before at most. -/
theorem le_roundUnits_add_four
    {magnitude numerator denominator exactNumerator exactDenominator : Nat}
    (finite : magnitude < infiniteMagnitude)
    (exactPositive : 0 < exactDenominator)
    (inside : (roundingInterval magnitude).Contains (4 * exactNumerator) exactDenominator)
    (positive : 0 < denominator)
    (near : (exactNumerator : ℚ) / exactDenominator * (1 - 7 / 2 ^ 54) ≤
      numerator / denominator) :
    magnitude ≤ roundUnits numerator denominator + 4 := by
  rcases Nat.lt_or_ge magnitude 4 with few | enough
  · omega
  · have least : magnitude - 4 ≤ roundUnits numerator denominator := by
      refine le_roundUnits_of_le (by omega) positive (le_trans ?_ near)
      obtain ⟨low, -, power⟩ := quotient_bounds exactPositive inside
      have scaled {bound : ℚ}
          (below : bound * 2 ^ shift magnitude ≤ exactNumerator / exactDenominator) :
          bound * (1 - 7 / 2 ^ 54) * 2 ^ shift magnitude ≤
            exactNumerator / exactDenominator * (1 - 7 / 2 ^ 54) := by
        rw [mul_right_comm]
        exact mul_le_mul_of_nonneg_right below (by norm_num)
      rcases units_sub_four enough with same | ⟨before, few, shifted, isBefore, same⟩
      · have small : (significand magnitude : ℚ) ≤ 2 ^ 53 := by
          have less := significand_lt magnitude
          rw [fractionLimit_eq] at less
          exact_mod_cast (show significand magnitude ≤ 2 ^ 53 by omega)
        rw [same]
        refine le_trans ?_ (scaled low)
        gcongr
        linarith
      · rw [same]
        rw [fractionLimit_eq] at isBefore power
        rcases Nat.eq_zero_or_pos before with rfl | some_before
        · refine le_trans ?_ (scaled (power isBefore shifted))
          rw [isBefore]
          gcongr
          norm_num
        · refine le_trans ?_ (scaled low)
          rw [isBefore]
          gcongr
          interval_cases before <;> norm_num
    omega

/-- A quotient that is close to one in the interval of a number is rounded to a number that is four
places away at most. -/
theorem roundUnits_within_four
    {magnitude numerator denominator exactNumerator exactDenominator : Nat}
    (finite : magnitude < infiniteMagnitude)
    (exactPositive : 0 < exactDenominator)
    (inside : (roundingInterval magnitude).Contains (4 * exactNumerator) exactDenominator)
    (positive : 0 < denominator)
    (near : IsNear (1 - 7 / 2 ^ 54) (1 + 7 / 2 ^ 54) (numerator / denominator)
      (exactNumerator / exactDenominator)) :
    roundUnits numerator denominator ≤ magnitude + 4 ∧
      magnitude ≤ roundUnits numerator denominator + 4 :=
  ⟨roundUnits_le_add_four exactPositive inside positive near.atMost,
    le_roundUnits_add_four finite exactPositive inside positive near.atLeast⟩

end Binary64
end Telemetry
