import Mathlib.Tactic.Ring
import Telemetry.Number.Binary64

/-!
# Rounding keeps the order

A larger quotient is never rounded to a smaller magnitude, and a larger
magnitude never has fewer units.  So a product is finite when one that is at
least as large is.
-/

namespace Telemetry
namespace Binary64

/-- The weight of the exponent field's last bit, as a power of two. -/
theorem fractionLimit_eq : fractionLimit = 2 ^ 52 := rfl

/-! ## Quotients -/

theorem le_divideHalfEven (numerator denominator : Nat) :
    numerator / denominator ≤ divideHalfEven numerator denominator := by
  unfold divideHalfEven
  dsimp only
  split_ifs <;> omega

theorem divideHalfEven_le (numerator denominator : Nat) :
    divideHalfEven numerator denominator ≤ numerator / denominator + 1 := by
  unfold divideHalfEven
  dsimp only
  split_ifs <;> omega

theorem divideHalfEven_mono
    {smaller larger : Nat}
    (atMost : smaller ≤ larger)
    (denominator : Nat) :
    divideHalfEven smaller denominator ≤ divideHalfEven larger denominator := by
  rcases Nat.lt_or_ge (smaller / denominator) (larger / denominator) with less | notLess
  · calc
      divideHalfEven smaller denominator ≤ smaller / denominator + 1 := divideHalfEven_le _ _
      _ ≤ larger / denominator := less
      _ ≤ divideHalfEven larger denominator := le_divideHalfEven _ _
  · -- With one quotient for both, the larger remainder decides.
    have same : smaller / denominator = larger / denominator :=
      Nat.le_antisymm (Nat.div_le_div_right atMost) notLess
    have remainders : smaller % denominator ≤ larger % denominator := by
      have small := Nat.div_add_mod smaller denominator
      have large := Nat.div_add_mod larger denominator
      rw [same] at small
      omega
    unfold divideHalfEven
    dsimp only
    rw [same]
    split_ifs <;> omega

/-! ## Magnitudes -/

theorem log2_mono {smaller larger : Nat} (atMost : smaller ≤ larger) :
    Nat.log2 smaller ≤ Nat.log2 larger := by
  rcases Nat.eq_zero_or_pos smaller with rfl | positive
  · simp
  · exact (Nat.le_log2 (by omega)).mpr ((Nat.log2_self_le (by omega)).trans atMost)

/-- A quotient that is rounded to some places behind its first bit has fifty-three bits at most. -/
theorem divideHalfEven_shift_le (numerator denominator : Nat) :
    divideHalfEven numerator (denominator <<< (logQuotient numerator denominator - 52)) ≤
      2 ^ 53 := by
  refine (divideHalfEven_le _ _).trans ?_
  have small : numerator / denominator < 2 ^ (Nat.log2 (numerator / denominator) + 1) :=
    Nat.lt_log2_self
  have wide : 2 ^ (Nat.log2 (numerator / denominator) + 1) ≤
      2 ^ 53 * 2 ^ (logQuotient numerator denominator - 52) := by
    rw [← Nat.pow_add]
    exact Nat.pow_le_pow_right (by decide) (by unfold logQuotient; omega)
  rw [Nat.shiftLeft_eq, ← Nat.div_div_eq_div_mul]
  exact Nat.div_lt_of_lt_mul (by rw [Nat.mul_comm]; exact small.trans_le wide)

/-- A quotient that is rounded to places behind its first bit has fifty-three bits at least. -/
theorem le_divideHalfEven_shift
    {numerator denominator : Nat}
    (places : 52 < logQuotient numerator denominator) :
    2 ^ 52 ≤ divideHalfEven numerator
      (denominator <<< (logQuotient numerator denominator - 52)) := by
  refine le_trans ?_ (le_divideHalfEven _ _)
  have nonzero : numerator / denominator ≠ 0 := by
    rintro zero
    simp [logQuotient, zero] at places
  have large : 2 ^ Nat.log2 (numerator / denominator) ≤ numerator / denominator :=
    Nat.log2_self_le nonzero
  rw [Nat.shiftLeft_eq, ← Nat.div_div_eq_div_mul,
    Nat.le_div_iff_mul_le (Nat.two_pow_pos _), ← Nat.pow_add]
  refine le_trans (Nat.pow_le_pow_right (by decide) ?_) large
  unfold logQuotient at *
  omega

/-- A larger quotient is not rounded to a smaller magnitude. -/
theorem roundUnits_mono
    {smaller larger : Nat}
    (atMost : smaller ≤ larger)
    (denominator : Nat) :
    roundUnits smaller denominator ≤ roundUnits larger denominator := by
  have logs : logQuotient smaller denominator ≤ logQuotient larger denominator :=
    log2_mono (Nat.div_le_div_right atMost)
  have smallRounded := divideHalfEven_shift_le smaller denominator
  unfold roundUnits
  dsimp only
  refine min_le_min_right _ ?_
  rcases Nat.lt_or_ge (logQuotient smaller denominator - 52)
      (logQuotient larger denominator - 52) with fewer | notFewer
  · have largeRounded := le_divideHalfEven_shift
      (show 52 < logQuotient larger denominator by omega)
    have step : (logQuotient smaller denominator - 52 + 1) * fractionLimit ≤
        (logQuotient larger denominator - 52) * fractionLimit :=
      Nat.mul_le_mul_right _ fewer
    rw [fractionLimit_eq] at *
    omega
  · have same : logQuotient smaller denominator - 52 = logQuotient larger denominator - 52 := by
      omega
    rw [same]
    exact Nat.add_le_add_right (divideHalfEven_mono atMost _) _

theorem significand_lt (magnitude : Nat) : significand magnitude < 2 * fractionLimit := by
  have split := Nat.div_add_mod magnitude fractionLimit
  have small : magnitude % fractionLimit < fractionLimit := Nat.mod_lt _ (by decide)
  unfold significand shift
  rw [fractionLimit_eq] at *
  omega

theorem le_significand
    {magnitude : Nat}
    (shifted : 0 < shift magnitude) :
    fractionLimit ≤ significand magnitude := by
  have split := Nat.div_add_mod magnitude fractionLimit
  unfold significand shift at *
  rw [fractionLimit_eq] at *
  omega

/-- A larger magnitude does not have fewer units. -/
theorem units_mono
    {smaller larger : Nat}
    (atMost : smaller ≤ larger) :
    units smaller ≤ units larger := by
  have shifts : shift smaller ≤ shift larger :=
    Nat.sub_le_sub_right (Nat.div_le_div_right atMost) 1
  unfold units
  rw [Nat.shiftLeft_eq, Nat.shiftLeft_eq]
  rcases Nat.lt_or_ge (shift smaller) (shift larger) with fewer | notFewer
  · have small := significand_lt smaller
    have large := le_significand (show 0 < shift larger by omega)
    calc
      significand smaller * 2 ^ shift smaller ≤ 2 * fractionLimit * 2 ^ shift smaller :=
        Nat.mul_le_mul_right _ small.le
      _ = fractionLimit * 2 ^ (shift smaller + 1) := by rw [Nat.pow_succ]; ring
      _ ≤ significand larger * 2 ^ shift larger :=
        Nat.mul_le_mul large (Nat.pow_le_pow_right (by decide) fewer)
  · have same : shift smaller = shift larger := Nat.le_antisymm shifts notFewer
    unfold significand
    rw [same]
    exact Nat.mul_le_mul_right _ (Nat.sub_le_sub_right atMost _)

end Binary64
end Telemetry
