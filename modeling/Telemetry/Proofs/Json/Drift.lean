import Telemetry.Proofs.Json.Exact
import Telemetry.Proofs.Number.Drift

/-!
# Numbers that are read back drift a little at most

A reader rounds the significand, the power of ten and their product or quotient;
far below one it divides twice.  The errors add up to less than what takes a
number four places away, so a number that is written and read again keeps its
sign and stays within four places of what it was.
-/

namespace Telemetry
namespace Binary64

theorem cast_unitsInOne_pos : (0 : ℚ) < unitsInOne := by
  exact_mod_cast unitsInOne_pos

/-- A natural number is changed by one part in `2 ^ 53` at most. -/
theorem isNear_nearestUnits
    {value : Nat}
    (nonzero : value ≠ 0)
    (finite : roundRatio value 1 < infiniteMagnitude) :
    IsNear (1 - 1 / 2 ^ 53) (1 + 1 / 2 ^ 53) (nearestUnits value / unitsInOne) value := by
  have large : 2 ^ 52 * 1 ≤ value * unitsInOne :=
    (show 2 ^ 52 * 1 ≤ 1 * unitsInOne by decide).trans
      (Nat.mul_le_mul_right _ (Nat.pos_iff_ne_zero.mpr nonzero))
  have near := (isNear_roundUnits Nat.one_pos large finite).mul_right
    (inv_nonneg.mpr cast_unitsInOne_pos.le)
  have exact : ((value * unitsInOne : Nat) : ℚ) / (1 : Nat) * (unitsInOne : ℚ)⁻¹ = value := by
    have positive := cast_unitsInOne_pos
    push_cast
    field_simp
  rw [exact, ← div_eq_mul_inv] at near
  exact near

/-- The largest power of ten that a reader divides by is closer than others. -/
theorem isNear_nearestUnits_308 :
    IsNear (1 - 1 / 2 ^ 55) (1 + 1 / 2 ^ 55) (nearestUnits (Nat.pow 10 308) / unitsInOne)
      (Nat.pow 10 308 : Nat) := by
  have bounds : (2 ^ 55 - 1) * (Nat.pow 10 308 * unitsInOne) ≤
        2 ^ 55 * nearestUnits (Nat.pow 10 308) ∧
      2 ^ 55 * nearestUnits (Nat.pow 10 308) ≤
        (2 ^ 55 + 1) * (Nat.pow 10 308 * unitsInOne) := by
    decide +kernel
  generalize Nat.pow 10 308 = power at *
  generalize nearestUnits power = near at *
  have positive := cast_unitsInOne_pos
  obtain ⟨low, high⟩ := bounds
  qify at low high
  constructor
  · rw [le_div_iff₀ positive]
    push_cast at low
    linarith
  · rw [div_le_iff₀ positive]
    linarith

/-- Natural numbers up to a finite one are finite. -/
theorem roundRatio_lt_of_le
    {smaller larger : Nat}
    (atMost : smaller ≤ larger)
    (finite : (ofNat larger).isFinite = true) :
    roundRatio smaller 1 < infiniteMagnitude := by
  have small := of_decide_eq_true (isFinite_of_le atMost finite)
  rwa [magnitude_ofNat] at small

theorem pow_ten_ne_zero (exponent : Nat) : Nat.pow 10 exponent ≠ 0 :=
  (Nat.pow_pos (show 0 < 10 by decide)).ne'

theorem pow_ten_add (left right : Nat) :
    Nat.pow 10 (left + right) = Nat.pow 10 left * Nat.pow 10 right :=
  Nat.pow_add 10 left right

end Binary64

namespace Json

open Bytes Binary64

/-- A finite magnitude is within four places of another. -/
def IsWithinFour (back magnitude : Nat) : Prop :=
  back < infiniteMagnitude ∧ back ≤ magnitude + 4 ∧ magnitude ≤ back + 4

/-- A significand that is multiplied by a power is close to the exact product. -/
theorem within_of_multiply
    {digits power magnitude : Nat}
    (nonzero : digits ≠ 0 ∧ power ≠ 0)
    (digitsFinite : roundRatio digits 1 < infiniteMagnitude)
    (powerFinite : roundRatio power 1 < infiniteMagnitude)
    (finite : magnitude < infiniteMagnitude)
    (inside : (roundingInterval magnitude).Contains (4 * (digits * power * unitsInOne)) 1)
    (bounded : ((ofNat digits).multiply (ofNat power)).isInfinite = false) :
    ∃ back, (ofNat digits).multiply (ofNat power) = ofMagnitude false back ∧
      IsWithinFour back magnitude := by
  have product : (ofNat digits).multiply (ofNat power) =
      ofMagnitude false (roundUnits (nearestUnits digits * nearestUnits power) unitsInOne) :=
    multiply_ofMagnitude digitsFinite powerFinite
  have atMost := roundUnits_le (nearestUnits digits * nearestUnits power) unitsInOne
  rw [product] at bounded
  have notInfinite := beq_eq_false_iff_ne.mp bounded
  rw [magnitude_ofMagnitude atMost] at notInfinite
  have positive := cast_unitsInOne_pos
  have close := ((isNear_nearestUnits nonzero.1 digitsFinite).mul
    (isNear_nearestUnits nonzero.2 powerFinite) ⟨Nat.cast_nonneg _, Nat.cast_nonneg _⟩
    ⟨by norm_num, by norm_num⟩).mul_right positive.le
  have near : IsNear (1 - 7 / 2 ^ 54) (1 + 7 / 2 ^ 54)
      ((nearestUnits digits * nearestUnits power : Nat) / unitsInOne)
      ((digits * power * unitsInOne : Nat) / (1 : Nat)) := by
    have isValue : (nearestUnits digits / unitsInOne * (nearestUnits power / unitsInOne) *
        unitsInOne : ℚ) = (nearestUnits digits * nearestUnits power : Nat) / unitsInOne := by
      push_cast
      field_simp
    have isExact : (digits * power * unitsInOne : ℚ) =
        (digits * power * unitsInOne : Nat) / (1 : Nat) := by
      push_cast
      ring
    rw [isValue, isExact] at close
    exact close.widen (div_nonneg (Nat.cast_nonneg _) (Nat.cast_nonneg _)) (by norm_num)
      (by norm_num)
  obtain ⟨above, below⟩ := roundUnits_within_four finite Nat.one_pos inside unitsInOne_pos near
  exact ⟨_, product, Nat.lt_of_le_of_ne atMost notInfinite, above, below⟩

/-- A quotient by a number that is not below one is not above the dividend. -/
theorem roundUnits_divide_le
    {left divisor : Nat}
    (large : unitsInOne ≤ divisor) :
    roundUnits (units left * unitsInOne) divisor ≤ left := by
  have positive := unitsInOne_pos.trans_le large
  refine roundUnits_le_of_le positive ?_
  rw [div_le_iff₀ (by exact_mod_cast positive)]
  exact_mod_cast Nat.mul_le_mul_left (units left) large

/-- A finite significand stays finite when it is divided by a power. -/
theorem roundUnits_divide_lt
    {digits power : Nat}
    (nonzero : power ≠ 0)
    (digitsFinite : roundRatio digits 1 < infiniteMagnitude) :
    roundUnits (nearestUnits digits * unitsInOne) (nearestUnits power) < infiniteMagnitude :=
  (roundUnits_divide_le (unitsInOne_le_nearestUnits nonzero)).trans_lt digitsFinite

/-- A quotient of close values is close to the exact quotient. -/
theorem isNear_divide
    {left power : Nat} {low high lowToo highToo exact : ℚ}
    (near : IsNear low high (units left / unitsInOne) exact)
    (nearToo : IsNear lowToo highToo (nearestUnits power / unitsInOne) power)
    (nonzero : power ≠ 0)
    (nonnegative : 0 ≤ exact ∧ 0 ≤ low ∧ 0 ≤ highToo)
    (lowPositive : 0 < lowToo) :
    IsNear (low * highToo⁻¹) (high * lowToo⁻¹)
      ((units left * unitsInOne : Nat) / nearestUnits power) (exact / power * unitsInOne) := by
  have positive := cast_unitsInOne_pos
  have some_power : (0 : ℚ) < power := by exact_mod_cast Nat.pos_iff_ne_zero.mpr nonzero
  have some_units : (0 : ℚ) < nearestUnits power := by
    exact_mod_cast unitsInOne_pos.trans_le (unitsInOne_le_nearestUnits nonzero)
  have close := (near.mul (nearToo.inv some_power lowPositive)
    ⟨nonnegative.1, (inv_pos.mpr some_power).le⟩
    ⟨nonnegative.2.1, inv_nonneg.mpr nonnegative.2.2⟩).mul_right positive.le
  have isValue : (units left / unitsInOne * ((nearestUnits power : ℚ) / unitsInOne)⁻¹ *
      unitsInOne : ℚ) = (units left * unitsInOne : Nat) / nearestUnits power := by
    push_cast
    field_simp
  rw [isValue, ← div_eq_mul_inv] at close
  exact close

/-- A significand that is divided by a power is close to the exact quotient. -/
theorem within_of_divide
    {digits power magnitude : Nat}
    (nonzero : digits ≠ 0 ∧ power ≠ 0)
    (digitsFinite : roundRatio digits 1 < infiniteMagnitude)
    (powerFinite : roundRatio power 1 < infiniteMagnitude)
    (finite : magnitude < infiniteMagnitude)
    (inside : (roundingInterval magnitude).Contains (4 * (digits * unitsInOne)) power) :
    ∃ back, (ofNat digits).divide (ofNat power) = ofMagnitude false back ∧
      IsWithinFour back magnitude := by
  have large := unitsInOne_le_nearestUnits nonzero.2
  have close := isNear_divide (isNear_nearestUnits nonzero.1 digitsFinite)
    (isNear_nearestUnits nonzero.2 powerFinite) nonzero.2
    ⟨Nat.cast_nonneg _, by norm_num, by norm_num⟩ (by norm_num)
  have isExact : (digits / power * unitsInOne : ℚ) = (digits * unitsInOne : Nat) / power := by
    push_cast
    ring
  rw [isExact] at close
  have near := close.widen (div_nonneg (Nat.cast_nonneg _) (Nat.cast_nonneg _))
    (show 1 - 7 / 2 ^ 54 ≤ _ by norm_num) (show _ ≤ 1 + 7 / 2 ^ 54 by norm_num)
  obtain ⟨above, below⟩ := roundUnits_within_four finite (Nat.pos_iff_ne_zero.mpr nonzero.2)
    inside (unitsInOne_pos.trans_le large) near
  exact ⟨_, divide_ofMagnitude digitsFinite powerFinite (roundRatio_ne_zero nonzero.2),
    roundUnits_divide_lt nonzero.2 digitsFinite, above, below⟩

/-- The number between two divisions is close, too, unless the significand is very small. -/
theorem isNear_divide_first
    {digits power : Nat}
    (near : IsNear (1 - 1 / 2 ^ 55) (1 + 1 / 2 ^ 55) (nearestUnits power / unitsInOne) power)
    (notLarge : 2 ^ 52 * nearestUnits power ≤ 3 * unitsInOne * unitsInOne)
    (nonzero : power ≠ 0)
    (some_digits : 3 ≤ digits)
    (digitsFinite : roundRatio digits 1 < infiniteMagnitude) :
    IsNear ((1 - 1 / 2 ^ 53) * (1 + 1 / 2 ^ 55)⁻¹ * (1 - 1 / 2 ^ 53))
      ((1 + 1 / 2 ^ 53) * (1 - 1 / 2 ^ 55)⁻¹ * (1 + 1 / 2 ^ 53))
      (units (roundUnits (nearestUnits digits * unitsInOne) (nearestUnits power)) / unitsInOne)
      (digits / power) := by
  have three := (isExact_of_le (show 3 ≤ 2 ^ 53 by decide)).units
  have atLeast : 3 * unitsInOne ≤ nearestUnits digits := by
    rw [← three]
    exact units_mono (roundUnits_mono (Nat.mul_le_mul_right _ some_digits) 1)
  have large := notLarge.trans (Nat.mul_le_mul_right unitsInOne atLeast)
  have one := unitsInOne_le_nearestUnits nonzero
  have divided := isNear_divide (isNear_nearestUnits (by omega) digitsFinite) near nonzero
    ⟨Nat.cast_nonneg _, by norm_num, by norm_num⟩ (by norm_num)
  have rounded := isNear_roundUnits (unitsInOne_pos.trans_le one) large
    (roundUnits_divide_lt nonzero digitsFinite)
  have positive := cast_unitsInOne_pos
  have close := (rounded.trans divided ⟨by norm_num, by norm_num⟩).mul_right
    (inv_pos.mpr positive).le
  rw [mul_inv_cancel_right₀ positive.ne', ← div_eq_mul_inv] at close
  exact close

/-- The magnitude that dividing a significand twice leads to. -/
def dividedTwice (digits first second : Nat) : Nat :=
  roundUnits (units (roundUnits (nearestUnits digits * unitsInOne) (nearestUnits first)) *
    unitsInOne) (nearestUnits second)

theorem divide_divide_ofNat
    {digits first second : Nat}
    (nonzero : first ≠ 0 ∧ second ≠ 0)
    (digitsFinite : roundRatio digits 1 < infiniteMagnitude)
    (firstFinite : roundRatio first 1 < infiniteMagnitude)
    (secondFinite : roundRatio second 1 < infiniteMagnitude) :
    ((ofNat digits).divide (ofNat first)).divide (ofNat second) =
        ofMagnitude false (dividedTwice digits first second) ∧
      dividedTwice digits first second < infiniteMagnitude := by
  have once := roundUnits_divide_lt nonzero.1 digitsFinite
  refine ⟨?_, (roundUnits_divide_le (unitsInOne_le_nearestUnits nonzero.2)).trans_lt once⟩
  rw [ofNat, ofNat, divide_ofMagnitude digitsFinite firstFinite (roundRatio_ne_zero nonzero.1)]
  exact divide_ofMagnitude once secondFinite (roundRatio_ne_zero nonzero.2)

/-- Between two divisions a very small significand may lose more, but then the result is so small
that it does not show. -/
theorem dividedTwice_of_small :
    ∀ digits < 3, digits ≠ 0 -> ∀ exponent < 38,
      let nearest := roundRatio digits (Nat.pow 10 308 * Nat.pow 10 (exponent + 1))
      let back := dividedTwice digits (Nat.pow 10 308) (Nat.pow 10 (exponent + 1))
      back ≤ nearest + 4 ∧ nearest ≤ back + 4 := by
  decide +kernel

/-- A significand that is not very small and is divided twice is close to the exact quotient. -/
theorem isNear_divide_twice
    {digits first second : Nat}
    (near : IsNear (1 - 1 / 2 ^ 55) (1 + 1 / 2 ^ 55) (nearestUnits first / unitsInOne) first)
    (notLarge : 2 ^ 52 * nearestUnits first ≤ 3 * unitsInOne * unitsInOne)
    (nonzero : first ≠ 0 ∧ second ≠ 0)
    (some_digits : 3 ≤ digits)
    (digitsFinite : roundRatio digits 1 < infiniteMagnitude)
    (secondFinite : roundRatio second 1 < infiniteMagnitude) :
    IsNear (1 - 7 / 2 ^ 54) (1 + 7 / 2 ^ 54)
      ((units (roundUnits (nearestUnits digits * unitsInOne) (nearestUnits first)) *
        unitsInOne : Nat) / nearestUnits second)
      ((digits * unitsInOne : Nat) / (first * second : Nat)) := by
  have divided := isNear_divide
    (isNear_divide_first near notLarge nonzero.1 some_digits digitsFinite)
    (isNear_nearestUnits nonzero.2 secondFinite) nonzero.2
    ⟨div_nonneg (Nat.cast_nonneg _) (Nat.cast_nonneg _), by norm_num, by norm_num⟩ (by norm_num)
  have isExact : (digits / first / second * unitsInOne : ℚ) =
      (digits * unitsInOne : Nat) / (first * second : Nat) := by
    push_cast
    field_simp
  rw [isExact] at divided
  exact divided.widen (div_nonneg (Nat.cast_nonneg _) (Nat.cast_nonneg _)) (by norm_num)
    (by norm_num)

/-- The powers of ten that a reader scales by are finite. -/
theorem pow_ten_finite {places : Nat} (few : places ≤ 308) :
    roundRatio (Nat.pow 10 places) 1 < infiniteMagnitude := by
  obtain ⟨largest, -⟩ := isInfinite_largest 308 (by decide) (by decide)
  revert few largest
  generalize 308 = limit
  exact fun few largest => roundRatio_lt_of_le (Nat.pow_le_pow_right (by decide) few) largest

/-- A significand that is divided twice by powers of ten stays within four places. -/
theorem within_of_divide_twice
    {digits exponent magnitude : Nat}
    (nonzero : digits ≠ 0)
    (small : exponent < 38)
    (digitsFinite : roundRatio digits 1 < infiniteMagnitude)
    (finite : magnitude < infiniteMagnitude)
    (inside : (roundingInterval magnitude).Contains (4 * (digits * unitsInOne))
      (Nat.pow 10 (308 + (exponent + 1)))) :
    ∃ back, ((ofNat digits).divide (tenTo 308)).divide (tenTo (exponent + 1)) =
        ofMagnitude false back ∧ IsWithinFour back magnitude := by
  have firstNonzero := pow_ten_ne_zero 308
  have secondNonzero := pow_ten_ne_zero (exponent + 1)
  have firstFinite := pow_ten_finite (Nat.le_refl 308)
  have secondFinite : roundRatio (Nat.pow 10 (exponent + 1)) 1 < infiniteMagnitude :=
    pow_ten_finite ((Nat.succ_le_of_lt small).trans (by decide))
  have firstNear := isNear_nearestUnits_308
  have notLarge : 2 ^ 52 * nearestUnits (Nat.pow 10 308) ≤ 3 * unitsInOne * unitsInOne := by
    decide +kernel
  have ofSmall := fun few => dividedTwice_of_small digits few nonzero exponent small
  rw [pow_ten_add] at inside
  unfold tenTo
  -- From here on only what has been said about the powers counts.
  generalize 308 = places at *
  generalize Nat.pow 10 places = first at *
  generalize Nat.pow 10 (exponent + 1) = second at *
  obtain ⟨divided, bounded⟩ :=
    divide_divide_ofNat ⟨firstNonzero, secondNonzero⟩ digitsFinite firstFinite secondFinite
  have positive := Nat.pos_iff_ne_zero.mpr (Nat.mul_ne_zero firstNonzero secondNonzero)
  refine ⟨_, divided, bounded, ?_⟩
  rcases Nat.lt_or_ge digits 3 with few | some_digits
  · have nearest : roundRatio digits (first * second) = magnitude :=
      roundUnits_eq_of_contains finite positive inside
    rw [← nearest]
    exact ofSmall few
  · exact roundUnits_within_four finite positive inside
      (unitsInOne_pos.trans_le (unitsInOne_le_nearestUnits secondNonzero))
      (isNear_divide_twice firstNear notLarge ⟨firstNonzero, secondNonzero⟩ some_digits
        digitsFinite secondFinite)

/-- The parts of a decimal that is read are neither zero nor very large or small. -/
structure IsModerate (decimal : Decimal) : Prop where
  nonzero : decimal.digits ≠ 0
  few : decimal.digits ≤ digitsLimit * 10 ^ 17
  least : -346 ≤ decimal.exponent

/-- A point is set behind a whole number of a few digits only. -/
theorem isModerate_withPoint
    {decimal : Decimal}
    (nonzero : decimal.digits ≠ 0)
    (few : decimal.digits ≤ digitsLimit)
    (below : decimal.exponent ≤ 16)
    (least : -346 ≤ decimal.exponent) :
    IsModerate (withPoint decimal) := by
  unfold withPoint
  split
  next whole =>
    have ten : 10 ^ decimal.exponent.toNat * 10 ≤ 10 ^ 17 := by
      rw [← Nat.pow_succ]
      exact Nat.pow_le_pow_right (by decide) (by omega)
    refine ⟨Nat.mul_ne_zero (Nat.mul_ne_zero nonzero (Nat.pow_pos (by decide)).ne') (by decide),
      ?_, show (-346 : Int) ≤ -1 by decide⟩
    dsimp only
    rw [Nat.mul_assoc]
    exact Nat.mul_le_mul few ten
  next => exact ⟨nonzero, few.trans (Nat.le_mul_of_pos_right _ (by decide)), least⟩

/-- The decimal that is gathered from the text of a number that is not zero is moderate. -/
theorem isModerate_gathered
    {magnitude : Nat}
    (nonzero : magnitude ≠ 0)
    (finite : magnitude < infiniteMagnitude) :
    IsModerate (gathered magnitude) := by
  obtain ⟨some_digits, few, -, least⟩ := shortest_numberStyle nonzero finite
  unfold gathered
  rw [if_neg nonzero]
  generalize shortest numberStyle.tie magnitude = decimal at *
  dsimp only
  split
  next positional =>
    have below := of_decide_eq_true (Bool.and_eq_true_iff.mp positional).2
    have some_letters := List.length_pos_of_ne_nil (Decimal.digitChars_ne_nil decimal.digits)
    exact isModerate_withPoint some_digits few (by omega) least
  next => exact ⟨some_digits, few.trans (Nat.le_mul_of_pos_right _ (by decide)), least⟩

/-- A decimal in the interval of a number is scaled to a number that is within four places. -/
theorem within_of_scaleByTen
    {decimal : Decimal} {magnitude : Nat} {scaled : Binary64}
    (moderate : IsModerate decimal)
    (finite : magnitude < infiniteMagnitude)
    (inside : LiesIn decimal (roundingInterval magnitude))
    (isScaled : scaleByTen (ofNat decimal.digits) decimal.exponent = .ok scaled) :
    ∃ back, scaled = ofMagnitude false back ∧ IsWithinFour back magnitude := by
  obtain ⟨nonzero, few, least⟩ := moderate
  obtain ⟨digits, exponent⟩ := decimal
  dsimp only at *
  have digitsFinite := roundRatio_lt_of_le few (by decide +kernel)
  unfold LiesIn powerOfTen at inside
  dsimp only at inside
  rw [scaleByTen] at isScaled
  rcases Int.lt_or_le exponent 0 with negative | nonnegative
  · rw [show exponent.toNat = 0 by omega, show (-exponent).toNat = exponent.natAbs by omega,
      Nat.pow_eq, Nat.pow_zero, Nat.mul_one] at inside
    by_cases near : exponent.natAbs ≤ 308
    · rw [if_pos near, if_neg (by omega), Except.ok.injEq] at isScaled
      rw [← isScaled]
      exact within_of_divide ⟨nonzero, pow_ten_ne_zero _⟩ digitsFinite (pow_ten_finite near) finite
        inside
    · obtain ⟨further, isFurther⟩ : ∃ further : Nat, exponent = -(further + 1 : Nat) - 308 :=
        ⟨exponent.natAbs - 309, by omega⟩
      have some_value : (ofNat digits).isZero = false :=
        (kinds_ofMagnitude digitsFinite).2.2 (roundRatio_ne_zero nonzero)
      rw [if_neg near, some_value, if_neg Bool.false_ne_true, if_neg (by omega), scaleByTen,
        if_pos (by omega), if_neg (by omega), Except.ok.injEq,
        show (exponent + 308).natAbs = further + 1 by omega] at isScaled
      rw [← isScaled]
      rw [show exponent.natAbs = 308 + (further + 1) by omega] at inside
      exact within_of_divide_twice nonzero (by omega) digitsFinite finite inside
  · rw [show exponent.toNat = exponent.natAbs by omega, show (-exponent).toNat = 0 by omega]
      at inside
    by_cases near : exponent.natAbs ≤ 308
    · rw [if_pos near, if_pos nonnegative] at isScaled
      dsimp only at isScaled
      split at isScaled
      next => cases isScaled
      next bounded =>
        rw [Except.ok.injEq] at isScaled
        rw [← isScaled]
        exact within_of_multiply ⟨nonzero, pow_ten_ne_zero _⟩ digitsFinite (pow_ten_finite near)
          finite inside (Bool.eq_false_iff.mpr bounded)
    · have some_value : (ofNat digits).isZero = false :=
        (kinds_ofMagnitude digitsFinite).2.2 (roundRatio_ne_zero nonzero)
      rw [if_neg near, some_value, if_neg Bool.false_ne_true, if_pos nonnegative] at isScaled
      cases isScaled

/-- A number has the sign of another one and is within four places of it. -/
structure IsClose (back value : Binary64) : Prop where
  sign : back.isNegative = value.isNegative
  within : IsWithinFour back.magnitude value.magnitude

/-- A finite number is close to itself. -/
theorem isClose_self {value : Binary64} (finite : value.isFinite = true) : IsClose value value where
  sign := rfl
  within := ⟨of_decide_eq_true finite, Nat.le_add_right _ _, Nat.le_add_right _ _⟩

/-- The text of a finite number is read as a number that is close to it. -/
theorem isClose_of_readBack?
    {value back : Binary64}
    (isBack : readBack? value = some back) :
    IsClose back value := by
  have finite : value.isFinite = true := by
    rw [← isSome_readBack?_iff, isBack]
    rfl
  have bounded := of_decide_eq_true finite
  by_cases zero : value.magnitude = 0
  · have short : IsShort (gathered value.magnitude) := by
      rw [zero]
      decide
    rw [readBack?_of_isWrittenShort ⟨finite, short⟩, Option.some.injEq] at isBack
    rw [← isBack]
    exact isClose_self finite
  · have moderate := isModerate_gathered zero bounded
    rw [readBack?, if_pos finite, realOfParts] at isBack
    split at isBack
    next => cases isBack
    next scaled isScaled =>
      obtain ⟨magnitude, rfl, within⟩ := within_of_scaleByTen moderate bounded
        (liesIn_gathered bounded) isScaled
      have close : back = ofMagnitude value.isNegative magnitude := by
        rw [← Option.some.inj isBack]
        cases value.isNegative with
        | true => exact negate_ofMagnitude within.1.le
        | false => rfl
      rw [close]
      exact ⟨isNegative_ofMagnitude within.1.le _, by rwa [magnitude_ofMagnitude within.1.le]⟩

end Json
end Telemetry
