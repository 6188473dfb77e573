import Telemetry.Number.Shortest
import Telemetry.Proofs.Number.Rounding

/-!
# The shortest decimal exists and is not too large

The finest grid of the search is finer than the interval of values that round
to a number, so the search ends at a grid with a point in the interval, and the
decimal is such a point.  None of them is beyond the decimal that the largest
finite number is written as.
-/

namespace Telemetry
namespace Binary64

theorem powerOfTen_pos (exponent : Int) : 0 < powerOfTen exponent :=
  Nat.pow_pos (by decide)

theorem powerOfTen_mono {smaller larger : Int} (atMost : smaller ≤ larger) :
    powerOfTen smaller ≤ powerOfTen larger :=
  Nat.pow_le_pow_right (by decide) (Int.toNat_le_toNat atMost)

/-! ## Grids -/

/-- The quarter units between two points of a grid, times its spread. -/
def gridScale (exponent : Int) : Nat :=
  4 * unitsInOne * powerOfTen exponent

theorem gridScale_pos (exponent : Int) : 0 < gridScale exponent :=
  Nat.mul_pos (by decide) (powerOfTen_pos exponent)

theorem le_of_atMost
    {closed : Bool} {left right : Nat}
    (fits : atMost closed left right = true) :
    left ≤ right := by
  cases closed with
  | false => exact (of_decide_eq_true fits).le
  | true => exact of_decide_eq_true fits

theorem atMost_of_lt
    {left right : Nat}
    (less : left < right)
    (closed : Bool) :
    atMost closed left right = true := by
  cases closed with
  | false => exact decide_eq_true less
  | true => exact decide_eq_true less.le

/-- A quotient of quarter units lies in an interval, the ends included when it is closed. -/
def RoundingInterval.Contains (interval : RoundingInterval) (numerator denominator : Nat) : Prop :=
  atMost interval.closed (interval.low * denominator) numerator = true ∧
    atMost interval.closed numerator (interval.high * denominator) = true

/-- A point of a grid that is found is positive and lies in the interval. -/
theorem gridPoint?_eq_some
    {interval : RoundingInterval} {tie : Tie} {exponent : Int} {point : Nat}
    (found : gridPoint? interval tie exponent = some point)
    (low : interval.low ≤ interval.centre)
    (high : interval.centre < interval.high) :
    point ≠ 0 ∧ interval.Contains (point * gridScale exponent) (powerOfTen (-exponent)) := by
  let centre := interval.centre * powerOfTen (-exponent)
  let below := centre / gridScale exponent
  have belowCentre : below * gridScale exponent ≤ centre := Nat.div_mul_le_self centre _
  have aboveCentre : centre < (below + 1) * gridScale exponent := by
    rw [Nat.add_mul, Nat.one_mul]
    exact Nat.lt_div_mul_add (gridScale_pos exponent)
  have lowCentre : interval.low * powerOfTen (-exponent) ≤ centre := Nat.mul_le_mul_right _ low
  have highCentre : centre < interval.high * powerOfTen (-exponent) :=
    Nat.mul_lt_mul_of_pos_right high (powerOfTen_pos _)
  have belowFits (fits : (below ≠ 0 && atMost interval.closed
      (interval.low * powerOfTen (-exponent)) (below * gridScale exponent)) = true) :
      below ≠ 0 ∧ interval.Contains (below * gridScale exponent) (powerOfTen (-exponent)) := by
    obtain ⟨nonzero, atLeast⟩ := Bool.and_eq_true_iff.mp fits
    exact ⟨of_decide_eq_true nonzero, atLeast,
      atMost_of_lt (belowCentre.trans_lt highCentre) _⟩
  have aboveFits (fits : atMost interval.closed ((below + 1) * gridScale exponent)
      (interval.high * powerOfTen (-exponent)) = true) :
      below + 1 ≠ 0 ∧
        interval.Contains ((below + 1) * gridScale exponent) (powerOfTen (-exponent)) :=
    ⟨Nat.succ_ne_zero below, atMost_of_lt (lowCentre.trans_lt aboveCentre) _, fits⟩
  unfold gridPoint? at found
  dsimp only at found
  split at found
  case h_1 => cases found
  case h_2 fits _ =>
      cases found
      exact belowFits fits
  case h_3 _ fits =>
      cases found
      exact aboveFits fits
  case h_4 fitsBelow fitsAbove =>
      -- Both neighbours lie in the interval, so either choice will do.
      have either : point = below ∨ point = below + 1 := by
        cases tie <;>
          dsimp only at found <;>
          split_ifs at found <;>
          cases found <;>
          first | exact Or.inl rfl | exact Or.inr rfl
      rcases either with rfl | rfl
      · exact belowFits fitsBelow
      · exact aboveFits fitsAbove

/-- A grid that is finer than the upper half of the interval has a point in it. -/
theorem exists_gridPoint?
    {interval : RoundingInterval} {exponent : Int}
    (finer : gridScale exponent < (interval.high - interval.centre) * powerOfTen (-exponent))
    (tie : Tie) :
    ∃ point, gridPoint? interval tie exponent = some point := by
  let centre := interval.centre * powerOfTen (-exponent)
  let below := centre / gridScale exponent
  have aboveFits : atMost interval.closed ((below + 1) * gridScale exponent)
      (interval.high * powerOfTen (-exponent)) = true := by
    refine atMost_of_lt ?_ _
    have belowCentre : below * gridScale exponent ≤ centre := Nat.div_mul_le_self centre _
    have upper : (interval.high - interval.centre) * powerOfTen (-exponent) =
        interval.high * powerOfTen (-exponent) - centre := Nat.sub_mul _ _ _
    rw [Nat.add_mul, Nat.one_mul]
    omega
  unfold gridPoint?
  dsimp only
  split
  case h_1 _ misses =>
      exact absurd (aboveFits.symm.trans misses) (by decide)
  case h_2 _ misses =>
      exact absurd (aboveFits.symm.trans misses) (by decide)
  case h_3 => exact ⟨_, rfl⟩
  case h_4 =>
      cases tie <;>
        dsimp only <;>
        split_ifs <;>
        exact ⟨_, rfl⟩

/-- The search ends at the first grid with a point when it reaches one. -/
theorem gridPoint?_searchGrids
    {interval : RoundingInterval} {tie : Tie} {fuel steps : Nat} {exponent : Int}
    (reached : steps < fuel)
    (point : ∃ point, gridPoint? interval tie (exponent - steps) = some point) :
    ∃ decimal, searchGrids interval tie fuel exponent = decimal ∧
      gridPoint? interval tie decimal.exponent = some decimal.digits ∧
      exponent - steps ≤ decimal.exponent ∧
      (decimal.exponent = exponent ∨ gridPoint? interval tie (decimal.exponent + 1) = none) := by
  induction fuel generalizing steps exponent with
  | zero => exact absurd reached (Nat.not_lt_zero steps)
  | succ fuel inductionHypothesis =>
      rw [searchGrids]
      cases found : gridPoint? interval tie exponent with
      | some digits =>
          exact ⟨⟨digits, exponent⟩, rfl, found, Int.sub_le_self _ (Int.natCast_nonneg _),
            Or.inl rfl⟩
      | none =>
          cases steps with
          | zero =>
              obtain ⟨digits, present⟩ := point
              rw [Int.natCast_zero, Int.sub_zero, found] at present
              cases present
          | succ steps =>
              have finer : exponent - 1 - (steps : Int) = exponent - (steps + 1 : Nat) := by omega
              obtain ⟨decimal, searched, present, least, first⟩ :=
                @inductionHypothesis steps (exponent - 1) (by omega) (finer ▸ point)
              refine ⟨decimal, searched, present, by omega, Or.inr ?_⟩
              rcases first with start | coarser
              · rw [start, Int.sub_add_cancel, found]
              · exact coarser

/-! ## The grids of a number -/

theorem log2_units_le (magnitude : Nat) :
    Nat.log2 (units magnitude) ≤ 52 + shift magnitude := by
  rcases Nat.eq_zero_or_pos (units magnitude) with zero | positive
  · simp [zero]
  · have small : units magnitude < 2 ^ (53 + shift magnitude) := by
      rw [units, Nat.shiftLeft_eq, Nat.pow_add]
      exact Nat.mul_lt_mul_of_pos_right (significand_lt magnitude) (Nat.two_pow_pos _)
    have bits := (Nat.log2_lt (Nat.pos_iff_ne_zero.mp positive)).mpr small
    omega

theorem shift_le
    {magnitude : Nat}
    (finite : magnitude < infiniteMagnitude) :
    shift magnitude ≤ 2045 := by
  have quotient : magnitude / fractionLimit < 2047 := Nat.div_lt_of_lt_mul (by
    rw [Nat.mul_comm]
    exact finite)
  unfold shift
  omega

theorem step_le_units
    {magnitude : Nat}
    (positive : 0 < magnitude) :
    1 <<< shift magnitude ≤ units magnitude := by
  have split := Nat.div_add_mod magnitude fractionLimit
  have significant : 1 ≤ significand magnitude := by
    unfold significand shift
    rw [fractionLimit_eq] at *
    omega
  rw [units, Nat.shiftLeft_eq, Nat.shiftLeft_eq]
  exact Nat.mul_le_mul_right _ significant

/-- The fewest bits that the units of a number have when its search starts at an exponent. -/
def fewestBits (exponent : Int) : Nat :=
  ((exponent - 1) * 100000 / 30103 + 1073).toNat

/-- The most bits that the units of a number have when its search starts at an exponent. -/
def mostBits (exponent : Int) : Nat :=
  (exponent * 100000 / 30103 + 1073).toNat

/-- Wherever a search starts, its last grid is fine enough for the fewest bits, and its first one is
coarse enough for the most. -/
theorem gridScale_bounds :
    ∀ start : Nat, start < 633 ->
      gridScale ((start : Int) - 323 - 23) <
          2 * 1 <<< (fewestBits ((start : Int) - 323) - 52) *
            powerOfTen (-((start : Int) - 323 - 23)) ∧
        12 * 1 <<< mostBits ((start : Int) - 323) * powerOfTen (-((start : Int) - 323)) ≤
          10 * 1 <<< 54 * gridScale ((start : Int) - 323) := by
  decide +kernel

/-- The start of a search, counted from the least. -/
theorem exists_start
    {magnitude : Nat}
    (finite : magnitude < infiniteMagnitude) :
    ∃ start : Nat, start < 633 ∧ coarsestExponent magnitude = (start : Int) - 323 ∧
      fewestBits (coarsestExponent magnitude) ≤ Nat.log2 (units magnitude) ∧
      Nat.log2 (units magnitude) ≤ mostBits (coarsestExponent magnitude) := by
  have bits := log2_units_le magnitude
  have shifted := shift_le finite
  unfold coarsestExponent fewestBits mostBits
  generalize Nat.log2 (units magnitude) = count at *
  exact ⟨(((count : Int) - 1073) * 30103 / 100000 + 324).toNat, by omega, by omega, by omega,
    by omega⟩

/-- The last grid of a search has a point in the interval. -/
theorem exists_gridPoint?_finest
    {magnitude : Nat}
    (finite : magnitude < infiniteMagnitude)
    (tie : Tie) :
    ∃ point, gridPoint? (roundingInterval magnitude) tie
      (coarsestExponent magnitude - (23 : Nat)) = some point := by
  obtain ⟨start, small, coarsest, fewest, -⟩ := exists_start finite
  have bits := log2_units_le magnitude
  have half : (roundingInterval magnitude).high - (roundingInterval magnitude).centre =
      2 * 1 <<< shift magnitude := Nat.add_sub_cancel_left _ _
  have step : 1 <<< (fewestBits (coarsestExponent magnitude) - 52) ≤ 1 <<< shift magnitude := by
    rw [Nat.shiftLeft_eq, Nat.shiftLeft_eq]
    exact Nat.mul_le_mul_left _ (Nat.pow_le_pow_right (by decide) (by omega))
  refine exists_gridPoint? ?_ tie
  rw [half]
  rw [coarsest] at step ⊢
  exact (gridScale_bounds start small).1.trans_le
    (Nat.mul_le_mul_right _ (Nat.mul_le_mul_left 2 step))

/-- The shortest decimal of a finite magnitude is a point of the first grid that has one. -/
theorem gridPoint?_shortest
    {magnitude : Nat}
    (finite : magnitude < infiniteMagnitude)
    (tie : Tie) :
    gridPoint? (roundingInterval magnitude) tie (shortest tie magnitude).exponent =
        some (shortest tie magnitude).digits ∧
      coarsestExponent magnitude - (23 : Nat) ≤ (shortest tie magnitude).exponent ∧
      ((shortest tie magnitude).exponent = coarsestExponent magnitude ∨
        gridPoint? (roundingInterval magnitude) tie ((shortest tie magnitude).exponent + 1) =
          none) := by
  obtain ⟨decimal, searched, found⟩ := gridPoint?_searchGrids (show 23 < 24 by decide)
    (exists_gridPoint?_finest finite tie)
  rw [shortest, searched]
  exact found

theorem shortest_spec
    {magnitude : Nat}
    (finite : magnitude < infiniteMagnitude)
    (tie : Tie) :
    (shortest tie magnitude).digits ≠ 0 ∧
      (roundingInterval magnitude).Contains
        ((shortest tie magnitude).digits * gridScale (shortest tie magnitude).exponent)
        (powerOfTen (-(shortest tie magnitude).exponent)) := by
  have step : 0 < 1 <<< shift magnitude := by
    rw [Nat.shiftLeft_eq]
    exact Nat.mul_pos Nat.one_pos (Nat.two_pow_pos _)
  exact gridPoint?_eq_some (gridPoint?_shortest finite tie).1 (Nat.sub_le _ _)
    (Nat.lt_add_of_pos_right (Nat.mul_pos (by decide) step))

/-! ## The number of digits -/

/-- The next coarser grid is ten times as coarse. -/
theorem powerOfTen_succ (exponent : Int) :
    powerOfTen (exponent + 1) * powerOfTen (-exponent) =
      10 * powerOfTen exponent * powerOfTen (-(exponent + 1)) := by
  unfold powerOfTen
  simp only [Nat.pow_eq]
  rcases Int.lt_or_le exponent 0 with negative | nonnegative
  · rw [show (exponent + 1).toNat = 0 by omega, show exponent.toNat = 0 by omega,
      show (-exponent).toNat = (-(exponent + 1)).toNat + 1 by omega]
    ring
  · rw [show (exponent + 1).toNat = exponent.toNat + 1 by omega,
      show (-exponent).toNat = 0 by omega, show (-(exponent + 1)).toNat = 0 by omega]
    ring

/-- A bound on the digits of shortest decimals; they fit sixty-four bits and leave room. -/
def digitsLimit : Nat :=
  10 * 1 <<< 54

theorem high_le (magnitude : Nat) :
    (roundingInterval magnitude).high ≤ 2 ^ 55 * 1 <<< shift magnitude := by
  have small := significand_lt magnitude
  rw [fractionLimit_eq] at small
  change 4 * units magnitude + 2 * 1 <<< shift magnitude ≤ _
  rw [units, Nat.shiftLeft_eq, Nat.shiftLeft_eq]
  calc
    4 * (significand magnitude * 2 ^ shift magnitude) + 2 * (1 * 2 ^ shift magnitude) =
        (4 * significand magnitude + 2) * 2 ^ shift magnitude := by ring
    _ ≤ 2 ^ 55 * 2 ^ shift magnitude := Nat.mul_le_mul_right _ (by omega)
    _ = 2 ^ 55 * (1 * 2 ^ shift magnitude) := by ring

/-- The first grid of a search is too coarse for more than a few digits. -/
theorem digits_le_of_coarsest
    {magnitude digits : Nat}
    (positive : 0 < magnitude)
    (finite : magnitude < infiniteMagnitude)
    (point : digits * gridScale (coarsestExponent magnitude) ≤
      (roundingInterval magnitude).high * powerOfTen (-coarsestExponent magnitude)) :
    digits ≤ digitsLimit := by
  obtain ⟨start, small, coarsest, -, most⟩ := exists_start finite
  have step := step_le_units positive
  have bits : units magnitude < 2 ^ (Nat.log2 (units magnitude) + 1) := Nat.lt_log2_self
  have power : 2 ^ (Nat.log2 (units magnitude) + 1) ≤
      2 * 1 <<< mostBits (coarsestExponent magnitude) := by
    rw [Nat.shiftLeft_eq, Nat.pow_succ]
    have grows := Nat.pow_le_pow_right (show 0 < 2 by decide) most
    omega
  have high : (roundingInterval magnitude).high ≤
      12 * 1 <<< mostBits (coarsestExponent magnitude) := by
    change 4 * units magnitude + 2 * 1 <<< shift magnitude ≤ _
    omega
  refine Nat.le_of_mul_le_mul_right ?_ (gridScale_pos (coarsestExponent magnitude))
  refine point.trans ((Nat.mul_le_mul_right _ high).trans ?_)
  rw [coarsest]
  exact (gridScale_bounds start small).2

/-- A grid whose next coarser one has no point in the interval has no points with many digits. -/
theorem digits_le_of_finer
    {magnitude digits : Nat} {tie : Tie} {exponent : Int}
    (point : digits * gridScale exponent ≤
      (roundingInterval magnitude).high * powerOfTen (-exponent))
    (coarser : gridPoint? (roundingInterval magnitude) tie (exponent + 1) = none) :
    digits ≤ digitsLimit := by
  have half : (roundingInterval magnitude).high - (roundingInterval magnitude).centre =
      2 * 1 <<< shift magnitude := Nat.add_sub_cancel_left _ _
  have step : 2 * 1 <<< shift magnitude * powerOfTen (-(exponent + 1)) ≤
      gridScale (exponent + 1) := by
    by_contra finer
    rw [Nat.not_le, ← half] at finer
    obtain ⟨found, present⟩ := exists_gridPoint? finer tie
    rw [coarser] at present
    cases present
  have scale : 0 < gridScale exponent * powerOfTen (-(exponent + 1)) :=
    Nat.mul_pos (gridScale_pos _) (powerOfTen_pos _)
  refine Nat.le_of_mul_le_mul_right ?_ scale
  calc
    digits * (gridScale exponent * powerOfTen (-(exponent + 1))) =
        digits * gridScale exponent * powerOfTen (-(exponent + 1)) := by ring
    _ ≤ 2 ^ 55 * 1 <<< shift magnitude * powerOfTen (-exponent) *
          powerOfTen (-(exponent + 1)) :=
        Nat.mul_le_mul_right _ (point.trans (Nat.mul_le_mul_right _ (high_le magnitude)))
    _ = 2 ^ 54 * powerOfTen (-exponent) *
          (2 * 1 <<< shift magnitude * powerOfTen (-(exponent + 1))) := by ring
    _ ≤ 2 ^ 54 * powerOfTen (-exponent) * gridScale (exponent + 1) :=
        Nat.mul_le_mul_left _ step
    _ = 2 ^ 54 * (4 * unitsInOne) * (powerOfTen (exponent + 1) * powerOfTen (-exponent)) := by
        unfold gridScale
        ring
    _ = digitsLimit * (gridScale exponent * powerOfTen (-(exponent + 1))) := by
        rw [powerOfTen_succ]
        unfold gridScale digitsLimit
        rw [Nat.shiftLeft_eq]
        ring

/-- A shortest decimal does not have a very small exponent. -/
theorem le_exponent_shortest
    {magnitude : Nat}
    (finite : magnitude < infiniteMagnitude)
    (tie : Tie) :
    -346 ≤ (shortest tie magnitude).exponent := by
  have least := (gridPoint?_shortest finite tie).2.1
  obtain ⟨start, -, coarsest, -⟩ := exists_start finite
  omega

/-- A shortest decimal does not have many digits. -/
theorem digits_shortest_le
    {magnitude : Nat}
    (positive : 0 < magnitude)
    (finite : magnitude < infiniteMagnitude)
    (tie : Tie) :
    (shortest tie magnitude).digits ≤ digitsLimit := by
  have point := le_of_atMost (shortest_spec finite tie).2.2
  rcases (gridPoint?_shortest finite tie).2.2 with start | coarser
  · rw [start] at point
    exact digits_le_of_coarsest positive finite point
  · exact digits_le_of_finer point coarser

/-! ## The largest decimal -/

/-- The decimal that the largest finite number is written as. -/
def largestDecimal : Nat :=
  17976931348623157 * Nat.pow 10 292

/-- A decimal is at most the one that the largest finite number is written as. -/
def IsInRange (digits : Nat) (exponent : Int) : Prop :=
  digits * powerOfTen exponent ≤ largestDecimal * powerOfTen (-exponent)

theorem shortest_largest :
    shortest .even (infiniteMagnitude - 1) = ⟨17976931348623157, 292⟩ := by
  decide +kernel

/-- No value that rounds to a finite number other than the largest is beyond the largest decimal. -/
theorem high_roundingInterval_le
    {magnitude : Nat}
    (finite : magnitude < infiniteMagnitude - 1) :
    (roundingInterval magnitude).high ≤ 4 * unitsInOne * largestDecimal := by
  have atMost : magnitude ≤ infiniteMagnitude - 2 := by omega
  have shifts : shift magnitude ≤ shift (infiniteMagnitude - 2) :=
    Nat.sub_le_sub_right (Nat.div_le_div_right atMost) 1
  have step : 1 <<< shift magnitude ≤ 1 <<< shift (infiniteMagnitude - 2) := by
    rw [Nat.shiftLeft_eq, Nat.shiftLeft_eq]
    exact Nat.mul_le_mul_left _ (Nat.pow_le_pow_right (by decide) shifts)
  have last : (roundingInterval (infiniteMagnitude - 2)).high ≤
      4 * unitsInOne * largestDecimal := by
    decide +kernel
  refine le_trans ?_ last
  exact Nat.add_le_add (Nat.mul_le_mul_left 4 (units_mono atMost)) (Nat.mul_le_mul_left 2 step)

/-- No finite number is written as a decimal beyond that of the largest. -/
theorem isInRange_shortest
    {magnitude : Nat}
    (finite : magnitude < infiniteMagnitude) :
    IsInRange (shortest .even magnitude).digits (shortest .even magnitude).exponent := by
  rcases Nat.lt_or_ge magnitude (infiniteMagnitude - 1) with less | largest
  · have point := le_of_atMost (shortest_spec finite .even).2.2
    have high := Nat.mul_le_mul_right (powerOfTen (-(shortest .even magnitude).exponent))
      (high_roundingInterval_le less)
    have scaled : 4 * unitsInOne * ((shortest .even magnitude).digits *
        powerOfTen (shortest .even magnitude).exponent) ≤ 4 * unitsInOne *
        (largestDecimal * powerOfTen (-(shortest .even magnitude).exponent)) := by
      calc
        _ = (shortest .even magnitude).digits *
            gridScale (shortest .even magnitude).exponent := by unfold gridScale; ring
        _ ≤ _ := point.trans high
        _ = _ := by ring
    exact Nat.le_of_mul_le_mul_left scaled (by decide)
  · obtain rfl : magnitude = infiniteMagnitude - 1 := by omega
    rw [shortest_largest]
    unfold IsInRange
    decide +kernel

end Binary64
end Telemetry
