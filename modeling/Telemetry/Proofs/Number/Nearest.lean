import Telemetry.Proofs.Number.Shortest

/-!
# What rounds to a number

Whatever lies in the rounding interval of a finite number is rounded to it, the
number itself above all.  A short significand that is shifted to the left is a
number, so it is not changed by rounding.
-/

namespace Telemetry
namespace Binary64

/-! ## Quotients -/

/-- Of two numbers that differ, one has a multiple that is less by the factor at least. -/
theorem mul_add_le_of_lt {less more : Nat} (below : less < more) (factor : Nat) :
    less * factor + factor ≤ more * factor := by
  rw [← Nat.succ_mul]
  exact Nat.mul_le_mul_right factor below

/-- What lies within a half of a natural number is rounded to it, the ends only if it is even. -/
theorem divideHalfEven_eq
    {numerator denominator target : Nat}
    (positive : 0 < denominator)
    (low : 2 * (target * denominator) ≤ 2 * numerator + denominator)
    (high : 2 * numerator ≤ 2 * (target * denominator) + denominator)
    (inside : target % 2 = 0 ∨ (2 * (target * denominator) < 2 * numerator + denominator ∧
      2 * numerator < 2 * (target * denominator) + denominator)) :
    divideHalfEven numerator denominator = target := by
  have split := Nat.div_add_mod' numerator denominator
  have small := Nat.mod_lt numerator positive
  unfold divideHalfEven
  dsimp only
  generalize numerator / denominator = quotient at *
  generalize numerator % denominator = rest at *
  -- The quotient is the target or the number before it; the rest tells which.
  rcases Nat.lt_trichotomy quotient target with less | rfl | more
  · have step := mul_add_le_of_lt less denominator
    have next : target = quotient + 1 := by
      by_contra other
      have further := mul_add_le_of_lt (show quotient + 1 < target by omega) denominator
      rw [Nat.succ_mul] at further
      omega
    subst next
    have product : (quotient + 1) * denominator = quotient * denominator + denominator :=
      Nat.succ_mul _ _
    split_ifs <;> omega
  · split_ifs <;> omega
  · have step := mul_add_le_of_lt more denominator
    omega

/-- A quotient is rounded at the place where fifty-three bits are left of it, or at the last one if
there are fewer. -/
theorem roundUnits_eq
    {numerator denominator places rounded : Nat}
    (positive : 0 < denominator)
    (low : places = 0 ∨ 2 ^ 52 * (denominator * 2 ^ places) ≤ numerator)
    (high : numerator < 2 ^ 53 * (denominator * 2 ^ places))
    (isRounded : divideHalfEven numerator (denominator * 2 ^ places) = rounded)
    (finite : rounded + places * fractionLimit < infiniteMagnitude) :
    roundUnits numerator denominator = rounded + places * fractionLimit := by
  have log : logQuotient numerator denominator - 52 = places := by
    have weight (bits : Nat) :
        2 ^ bits * (denominator * 2 ^ places) = 2 ^ (bits + places) * denominator := by
      rw [Nat.pow_add]
      ring
    rw [weight] at low high
    have less := (Nat.div_lt_iff_lt_mul positive).mpr high
    unfold logQuotient
    rcases low with rfl | atLeast
    · by_cases zero : numerator / denominator = 0
      · rw [zero]
        rfl
      · have bits := (Nat.log2_lt zero).mpr less
        omega
    · have more := (Nat.le_div_iff_mul_le positive).mpr atLeast
      have nonzero : numerator / denominator ≠ 0 :=
        Nat.pos_iff_ne_zero.mp ((Nat.two_pow_pos _).trans_le more)
      have bits := (Nat.log2_lt nonzero).mpr less
      have bitsToo := (Nat.le_log2 nonzero).mpr more
      omega
  unfold roundUnits
  dsimp only
  rw [log, Nat.shiftLeft_eq, isRounded, Nat.min_eq_left finite.le]

theorem divideHalfEven_mul_right
    {factor : Nat}
    (positive : 0 < factor)
    (numerator denominator : Nat) :
    divideHalfEven (numerator * factor) (denominator * factor) =
      divideHalfEven numerator denominator := by
  have twice : 2 * (numerator % denominator * factor) = 2 * (numerator % denominator) * factor :=
    (Nat.mul_assoc _ _ _).symm
  unfold divideHalfEven
  rw [Nat.mul_div_mul_right _ _ positive, Nat.mul_mod_mul_right, twice]
  simp only [Nat.mul_lt_mul_right positive]

/-- Only the quotient counts when it is rounded. -/
theorem roundUnits_mul_right
    {factor : Nat}
    (positive : 0 < factor)
    (numerator denominator : Nat) :
    roundUnits (numerator * factor) (denominator * factor) = roundUnits numerator denominator := by
  unfold roundUnits logQuotient
  dsimp only
  rw [Nat.mul_div_mul_right _ _ positive, Nat.shiftLeft_eq, Nat.shiftLeft_eq,
    Nat.mul_right_comm, divideHalfEven_mul_right positive]

/-! ## Intervals -/

/-- A number is its significand and the weight of its shift. -/
theorem significand_add (magnitude : Nat) :
    significand magnitude + shift magnitude * fractionLimit = magnitude := by
  have split := Nat.div_add_mod magnitude fractionLimit
  unfold significand shift
  rw [fractionLimit_eq] at *
  omega

theorem lt_of_atMost
    {left right : Nat}
    (fits : atMost false left right = true) :
    left < right :=
  of_decide_eq_true fits

theorem low_roundingInterval (magnitude : Nat) :
    (roundingInterval magnitude).low = 4 * units magnitude -
      (if significand magnitude = fractionLimit ∧ shift magnitude ≠ 0 then 1 <<< shift magnitude
        else 2 * 1 <<< shift magnitude) :=
  rfl

/-- What lies in the interval of a number is within a half of its last place, the ends only if the
significand is even, and within a quarter below a power of two. -/
theorem bounds_of_contains
    {magnitude numerator denominator : Nat}
    (inside : (roundingInterval magnitude).Contains (4 * numerator) denominator) :
    let place := denominator <<< shift magnitude
    let exact := significand magnitude * place
    2 * exact ≤ 2 * numerator + place ∧ 2 * numerator ≤ 2 * exact + place ∧
      (significand magnitude % 2 = 0 ∨
        (2 * exact < 2 * numerator + place ∧ 2 * numerator < 2 * exact + place)) ∧
      (significand magnitude = fractionLimit -> shift magnitude ≠ 0 ->
        4 * exact ≤ 4 * numerator + place) := by
  intro place exact
  obtain ⟨low, high⟩ := inside
  have centre : 4 * units magnitude * denominator = 4 * exact := by
    change 4 * (significand magnitude <<< shift magnitude) * denominator =
      4 * (significand magnitude * denominator <<< shift magnitude)
    rw [Nat.shiftLeft_eq, Nat.shiftLeft_eq]
    ring
  have step : 1 <<< shift magnitude * denominator = place := by
    rw [Nat.shiftLeft_eq, Nat.one_mul, Nat.mul_comm, ← Nat.shiftLeft_eq]
  have upper : (roundingInterval magnitude).high * denominator = 4 * exact + 2 * place := by
    change (4 * units magnitude + 2 * 1 <<< shift magnitude) * denominator = _
    rw [Nat.add_mul, centre, Nat.mul_assoc, step]
  have lower : (roundingInterval magnitude).low * denominator = 4 * exact -
      (if significand magnitude = fractionLimit ∧ shift magnitude ≠ 0 then place
        else 2 * place) := by
    rw [low_roundingInterval, Nat.sub_mul, centre]
    split_ifs
    · rw [step]
    · rw [Nat.mul_assoc, step]
  rw [upper] at high
  rw [lower] at low
  have atLeast := le_of_atMost low
  have atMost := le_of_atMost high
  refine ⟨by split_ifs at atLeast <;> omega, by omega, ?_, ?_⟩
  · rcases Nat.mod_two_eq_zero_or_one (significand magnitude) with even | odd
    · exact Or.inl even
    · right
      have isOpen : (roundingInterval magnitude).closed = false := by
        change decide (significand magnitude % 2 = 0) = false
        rw [odd]
        rfl
      rw [isOpen] at low high
      have below := lt_of_atMost low
      have above := lt_of_atMost high
      exact ⟨by split_ifs at below <;> omega, by omega⟩
  · intro power shifted
    rw [if_pos ⟨power, shifted⟩] at atLeast
    omega

/-- Whatever lies in the interval of a finite number is rounded to it. -/
theorem roundUnits_eq_of_contains
    {magnitude numerator denominator : Nat}
    (finite : magnitude < infiniteMagnitude)
    (positive : 0 < denominator)
    (inside : (roundingInterval magnitude).Contains (4 * numerator) denominator) :
    roundUnits numerator denominator = magnitude := by
  obtain ⟨low, high, tie, power⟩ := bounds_of_contains inside
  have whole := significand_add magnitude
  have small := significand_lt magnitude
  have large := @le_significand magnitude
  rw [Nat.shiftLeft_eq] at low high tie power
  generalize significand magnitude = significand at *
  generalize shift magnitude = shift at *
  rw [fractionLimit_eq] at *
  have place : 0 < denominator * 2 ^ shift := Nat.mul_pos positive (Nat.two_pow_pos _)
  have room := Nat.mul_le_mul_right (denominator * 2 ^ shift)
    (show significand + 1 ≤ 2 ^ 53 by omega)
  rw [Nat.succ_mul] at room
  rw [← whole] at finite ⊢
  by_cases full : shift = 0 ∨ 2 ^ 52 * (denominator * 2 ^ shift) ≤ numerator
  · exact roundUnits_eq positive full (by omega) (divideHalfEven_eq place low high tie) finite
  · -- What is less than a power of two is rounded up to it at a finer place.
    obtain ⟨shifted, less⟩ := not_or.mp full
    have least : significand = 2 ^ 52 := by
      by_contra other
      have more := Nat.mul_le_mul_right (denominator * 2 ^ shift)
        (show 2 ^ 52 + 1 ≤ significand by have := large (by omega); omega)
      rw [Nat.succ_mul] at more
      omega
    obtain ⟨finer, rfl⟩ := Nat.exists_eq_add_one_of_ne_zero shifted
    have below := power least (Nat.succ_ne_zero finer)
    subst least
    have double : denominator * 2 ^ (finer + 1) = 2 * (denominator * 2 ^ finer) := by
      rw [Nat.pow_succ]
      ring
    have sum : 2 ^ 52 + (finer + 1) * 2 ^ 52 = 2 ^ 53 + finer * 2 ^ 52 := by
      rw [Nat.succ_mul]
      omega
    rw [sum] at finite ⊢
    have rounded : divideHalfEven numerator (denominator * 2 ^ finer) = 2 ^ 53 :=
      divideHalfEven_eq (by omega) (by omega) (by omega) (Or.inl (by decide))
    exact roundUnits_eq positive (Or.inr (by omega)) (by omega) rounded finite

theorem atMost_mul_right
    {closed : Bool} {left right factor : Nat}
    (positive : 0 < factor)
    (fits : atMost closed left right = true) :
    atMost closed (left * factor) (right * factor) = true := by
  cases closed with
  | false => exact atMost_of_lt (Nat.mul_lt_mul_of_pos_right (lt_of_atMost fits) positive) _
  | true => exact decide_eq_true (Nat.mul_le_mul_right factor (le_of_atMost fits))

/-- Only the quotient counts when it lies in an interval. -/
theorem RoundingInterval.Contains.mul_right
    {interval : RoundingInterval} {numerator denominator factor : Nat}
    (inside : interval.Contains numerator denominator)
    (positive : 0 < factor) :
    interval.Contains (numerator * factor) (denominator * factor) := by
  unfold Contains
  rw [← Nat.mul_assoc, ← Nat.mul_assoc]
  exact ⟨atMost_mul_right positive inside.1, atMost_mul_right positive inside.2⟩

/-- The quarter units of a decimal, as a search of grids counts them. -/
theorem quarterUnits_eq (digits : Nat) (exponent : Int) :
    4 * (digits * powerOfTen exponent * unitsInOne) = digits * gridScale exponent := by
  unfold gridScale
  ring

/-! ## Numbers that rounding leaves alone -/

/-- A finite number is rounded to itself. -/
theorem roundUnits_units
    {magnitude : Nat}
    (finite : magnitude < infiniteMagnitude) :
    roundUnits (units magnitude) 1 = magnitude := by
  rcases Nat.eq_zero_or_pos magnitude with rfl | positive
  · decide +kernel
  · have atMost := step_le_units positive
    have step : 0 < 1 <<< shift magnitude := by
      rw [Nat.shiftLeft_eq]
      exact Nat.mul_pos Nat.one_pos (Nat.two_pow_pos _)
    refine roundUnits_eq_of_contains finite Nat.one_pos
      ⟨atMost_of_lt ?_ _, atMost_of_lt ?_ _⟩
    · rw [low_roundingInterval, Nat.mul_one]
      split_ifs <;> omega
    · change 4 * units magnitude < (4 * units magnitude + 2 * 1 <<< shift magnitude) * 1
      omega

/-- A number below the least exponent is doubled by doubling its significand. -/
theorem units_two_mul
    {magnitude : Nat}
    (small : magnitude < fractionLimit) :
    units (2 * magnitude) = 2 * units magnitude := by
  have quotient : magnitude / fractionLimit = 0 := Nat.div_eq_of_lt small
  have double : 2 * magnitude / fractionLimit ≤ 1 := by
    rw [fractionLimit_eq] at *
    omega
  have unshifted : shift magnitude = 0 ∧ shift (2 * magnitude) = 0 := by
    unfold shift
    omega
  simp [units, significand, unshifted]

/-- Any other number is doubled by the next exponent. -/
theorem units_add_fractionLimit
    {magnitude : Nat}
    (large : fractionLimit ≤ magnitude) :
    units (magnitude + fractionLimit) = 2 * units magnitude := by
  have next : shift (magnitude + fractionLimit) = shift magnitude + 1 := by
    unfold shift
    rw [fractionLimit_eq] at *
    omega
  have same : significand (magnitude + fractionLimit) = significand magnitude := by
    unfold significand
    rw [next, Nat.succ_mul]
    omega
  rw [units, units, same, next, Nat.shiftLeft_eq, Nat.shiftLeft_eq, Nat.pow_succ]
  ring

/-- A short significand that is shifted to the left is a number. -/
theorem exists_units_eq
    {short : Nat}
    (isShort : short < 2 ^ 53)
    (places : Nat) :
    ∃ magnitude, magnitude < (places + 2) * fractionLimit ∧
      units magnitude = short * 2 ^ places := by
  induction places with
  | zero =>
      have unshifted : shift short = 0 := by
        unfold shift
        rw [fractionLimit_eq]
        omega
      exact ⟨short, isShort, by simp [units, significand, unshifted]⟩
  | succ places inductionHypothesis =>
      obtain ⟨magnitude, bound, isUnits⟩ := inductionHypothesis
      have double : short * 2 ^ (places + 1) = 2 * units magnitude := by
        rw [isUnits, Nat.pow_succ]
        ring
      rw [double]
      rcases Nat.lt_or_ge magnitude fractionLimit with small | large
      · exact ⟨2 * magnitude, by rw [fractionLimit_eq] at *; omega, units_two_mul small⟩
      · exact ⟨magnitude + fractionLimit, by rw [fractionLimit_eq] at *; omega,
          units_add_fractionLimit large⟩

theorem unitsInOne_pos : 0 < unitsInOne := by decide

theorem unitsInOne_eq {bits : Nat} (isLog : bits = 1074) : unitsInOne = 2 ^ bits := by
  rw [unitsInOne, ← isLog]
  exact Nat.one_shiftLeft bits

/-- A natural number is exact if it is a short significand that is shifted to the left, and not
beyond all numbers. -/
theorem units_roundRatio
    {short places : Nat}
    (isShort : short < 2 ^ 53)
    (few : places ≤ 971) :
    roundRatio (short * 2 ^ places) 1 < infiniteMagnitude ∧
      units (roundRatio (short * 2 ^ places) 1) = short * 2 ^ places * unitsInOne := by
  obtain ⟨bits, isLog⟩ : ∃ bits, bits = 1074 := ⟨_, rfl⟩
  obtain ⟨magnitude, bound, isUnits⟩ := exists_units_eq isShort (places + bits)
  have finite : magnitude < infiniteMagnitude :=
    bound.trans_le (Nat.mul_le_mul_right _ (show places + bits + 2 ≤ 2047 by omega))
  have value : short * 2 ^ places * unitsInOne = units magnitude := by
    rw [isUnits, Nat.pow_add, unitsInOne_eq isLog, Nat.mul_assoc]
  rw [roundRatio, value, roundUnits_units finite]
  exact ⟨finite, rfl⟩

end Binary64
end Telemetry
