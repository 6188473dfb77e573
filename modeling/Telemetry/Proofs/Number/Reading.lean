import Telemetry.Proofs.Number.Digits
import Telemetry.Proofs.Number.Magnitude
import Telemetry.Proofs.Number.Nearest

/-!
# Decimals are read as the nearest number

A reader settles decimals that are far beyond the range by their size alone; it
comes to what rounding their exact value would give.  A plain decimal, digits
around a point or without one, is read as the number that is nearest to it, and
nothing else that is made of digits and points is read at all.
-/

namespace Telemetry
namespace Binary64

/-! ## Decimals far beyond the range -/

/-- What is very large is rounded to infinity. -/
theorem roundRatio_of_large
    {numerator denominator : Nat}
    (positive : 0 < denominator)
    (large : powerOfTen 400 * denominator ≤ numerator) :
    roundRatio numerator denominator = infiniteMagnitude := by
  have least : roundRatio (powerOfTen 400 * denominator) denominator = infiniteMagnitude := by
    have scaled := roundUnits_mul_right positive (powerOfTen 400 * unitsInOne) 1
    rw [Nat.one_mul, Nat.mul_right_comm] at scaled
    rw [roundRatio, scaled]
    decide +kernel
  refine Nat.le_antisymm (roundUnits_le _ _) ?_
  rw [← least]
  exact roundUnits_mono (Nat.mul_le_mul_right _ large) denominator

/-- What is very small is rounded to zero. -/
theorem roundRatio_of_small
    {numerator denominator : Nat}
    (positive : 0 < denominator)
    (small : numerator * powerOfTen 400 ≤ denominator) :
    roundRatio numerator denominator = 0 := by
  have most : roundUnits (denominator * unitsInOne) (denominator * powerOfTen 400) = 0 := by
    have scaled := roundUnits_mul_right positive unitsInOne (powerOfTen 400)
    rw [Nat.mul_comm denominator, Nat.mul_comm denominator, scaled]
    decide +kernel
  have same : roundRatio numerator denominator =
      roundUnits (numerator * unitsInOne * powerOfTen 400) (denominator * powerOfTen 400) :=
    (roundUnits_mul_right (powerOfTen_pos _) _ _).symm
  refine Nat.le_zero.mp ?_
  rw [same, ← most, Nat.mul_right_comm]
  exact roundUnits_mono (Nat.mul_le_mul_right _ small) _

/-- Three decimal digits are fewer than ten bits. -/
theorem ten_pow_le_two_pow
    {digits bits : Nat}
    (few : 10 * digits ≤ 3 * bits) :
    10 ^ digits ≤ 2 ^ bits := by
  refine (Nat.pow_le_pow_iff_left (show 10 ≠ 0 by decide)).mp ?_
  calc
    (10 ^ digits) ^ 10 = 10 ^ (10 * digits) := by rw [← Nat.pow_mul, Nat.mul_comm]
    _ ≤ 10 ^ (3 * bits) := Nat.pow_le_pow_right (by decide) few
    _ = (10 ^ 3) ^ bits := Nat.pow_mul 10 3 bits
    _ ≤ (2 ^ 10) ^ bits := Nat.pow_le_pow_left (by decide) bits
    _ = (2 ^ bits) ^ 10 := by rw [← Nat.pow_mul, ← Nat.pow_mul, Nat.mul_comm]

/-- A decimal digit is more than three bits. -/
theorem two_pow_le_ten_pow
    {bits digits : Nat}
    (few : bits ≤ 3 * digits) :
    2 ^ bits ≤ 10 ^ digits :=
  calc
    2 ^ bits ≤ 2 ^ (3 * digits) := Nat.pow_le_pow_right (by decide) few
    _ = (2 ^ 3) ^ digits := Nat.pow_mul 2 3 digits
    _ ≤ 10 ^ digits := Nat.pow_le_pow_left (by decide) digits

/-- A decimal is read as the number that is nearest to its exact value, also where its size alone
has settled it. -/
theorem ofDecimal_eq (negative : Bool) (digits : Nat) (exponent : Int) :
    ofDecimal negative digits exponent =
      ofMagnitude negative
        (roundRatio (digits * powerOfTen exponent) (powerOfTen (-exponent))) := by
  unfold ofDecimal
  dsimp only
  split_ifs with none large small
  · rw [none, Nat.zero_mul, roundRatio_of_small (powerOfTen_pos _) (by rw [Nat.zero_mul]; omega)]
    rfl
  · have least := Nat.log2_self_le none
    generalize Nat.log2 digits = bits at *
    have weight : powerOfTen 400 * powerOfTen (-exponent) ≤
        10 ^ (3 * bits / 10) * powerOfTen exponent := by
      unfold powerOfTen
      rw [Nat.pow_eq, Nat.pow_eq, Nat.pow_eq, ← Nat.pow_add, ← Nat.pow_add]
      exact Nat.pow_le_pow_right (by decide) (by omega)
    have bound : 10 ^ (3 * bits / 10) ≤ digits := (ten_pow_le_two_pow (by omega)).trans least
    rw [roundRatio_of_large (powerOfTen_pos _) (weight.trans (Nat.mul_le_mul_right _ bound))]
    rfl
  · have most := Nat.lt_log2_self (n := digits)
    generalize Nat.log2 digits = bits at *
    have whole : powerOfTen exponent = 1 := by
      unfold powerOfTen
      rw [show exponent.toNat = 0 by omega, Nat.pow_eq, Nat.pow_zero]
    have weight : 10 ^ (bits / 3 + 1) * powerOfTen 400 ≤ powerOfTen (-exponent) := by
      unfold powerOfTen
      rw [Nat.pow_eq, Nat.pow_eq, ← Nat.pow_add]
      exact Nat.pow_le_pow_right (by decide) (by omega)
    have bound : digits ≤ 10 ^ (bits / 3 + 1) := most.le.trans (two_pow_le_ten_pow (by omega))
    rw [whole, Nat.mul_one,
      roundRatio_of_small (powerOfTen_pos _) ((Nat.mul_le_mul_right _ bound).trans weight)]
    rfl
  · rfl

end Binary64

/-! ## Plain decimals -/

/-- A decimal as it is written without a sign and an exponent: digits around a point or without one,
and at least one of them. -/
structure PlainDecimal where
  /-- The digits before the point. -/
  whole : List Char
  /-- The digits behind the point, if there is a point. -/
  places? : Option (List Char)
  /-- All of them are digits. -/
  areDigits : (whole ++ places?.getD []).all isDigit = true
  /-- There is one at least. -/
  nonempty : whole ++ places?.getD [] ≠ []

namespace PlainDecimal

/-- How a decimal is written. -/
def letters (decimal : PlainDecimal) : List Char :=
  decimal.whole ++ match decimal.places? with
    | none => []
    | some places => '.' :: places

/-- The number that all digits spell. -/
def digits (decimal : PlainDecimal) : Nat :=
  digitsValue (decimal.whole ++ decimal.places?.getD [])

/-- The number of digits behind the point: the value is `digits / 10 ^ scale`. -/
def scale (decimal : PlainDecimal) : Nat :=
  (decimal.places?.getD []).length

/-- The number that is nearest to the value of a decimal. -/
def nearest (decimal : PlainDecimal) : Binary64 :=
  Binary64.ofMagnitude false (Binary64.roundRatio decimal.digits (10 ^ decimal.scale))

/-- The value of a decimal is a whole number, as that of `5`, `5.` and `5.0` is. -/
def IsWhole (decimal : PlainDecimal) : Prop :=
  10 ^ decimal.scale ∣ decimal.digits

instance (decimal : PlainDecimal) : Decidable decimal.IsWhole :=
  inferInstanceAs (Decidable (_ ∣ _))

/-- The value of a decimal without its fraction. -/
def wholePart (decimal : PlainDecimal) : Nat :=
  decimal.digits / 10 ^ decimal.scale

/-- The number that is nearest to a whole value is that of the natural number. -/
theorem nearest_of_isWhole
    {decimal : PlainDecimal}
    (isWhole : decimal.IsWhole) :
    decimal.nearest = Binary64.ofNat decimal.wholePart := by
  have digits : decimal.digits = decimal.wholePart * 10 ^ decimal.scale :=
    (Nat.div_mul_cancel isWhole).symm
  have positive : 0 < 10 ^ decimal.scale := Nat.pow_pos (by decide)
  have scaled := Binary64.roundUnits_mul_right positive
    (decimal.wholePart * Binary64.unitsInOne) 1
  rw [Nat.one_mul, Nat.mul_right_comm, ← digits] at scaled
  rw [nearest, Binary64.roundRatio, scaled]
  rfl

theorem letters_ne_nil (decimal : PlainDecimal) : decimal.letters ≠ [] := by
  intro none
  obtain ⟨whole, behind⟩ := List.append_eq_nil_iff.mp none
  refine decimal.nonempty ?_
  cases found : decimal.places? with
  | none => rw [whole]; rfl
  | some places =>
      rw [found] at behind
      cases behind

/-- A decimal is written in digits, besides the point. -/
theorem isDigit_or_point_of_mem
    {decimal : PlainDecimal} {letter : Char}
    (present : letter ∈ decimal.letters) :
    isDigit letter = true ∨ letter = '.' := by
  have digits := List.all_eq_true.mp decimal.areDigits
  rcases List.mem_append.mp present with whole | behind
  · exact Or.inl (digits letter (List.mem_append_left _ whole))
  · split at behind
    next => cases behind
    next places found =>
      rcases List.mem_cons.mp behind with rfl | place
      · exact Or.inr rfl
      · exact Or.inl (digits letter (List.mem_append_right _ (by rwa [found])))

/-- The number with a sign whose absolute value is nearest to a decimal. -/
def signed (decimal : PlainDecimal) (negative : Bool) : Binary64 :=
  Binary64.ofMagnitude negative (Binary64.roundRatio decimal.digits (10 ^ decimal.scale))

/-- A decimal with some places, as a reader puts it, is the quotient of its digits. -/
theorem ofDecimal_eq_signed (decimal : PlainDecimal) (negative : Bool) :
    Binary64.ofDecimal negative decimal.digits (0 - (decimal.scale : Int)) =
      decimal.signed negative := by
  have whole : Binary64.powerOfTen (0 - (decimal.scale : Int)) = 1 := by
    unfold Binary64.powerOfTen
    rw [show (0 - (decimal.scale : Int)).toNat = 0 by omega, Nat.pow_eq, Nat.pow_zero]
  have places : Binary64.powerOfTen (-(0 - (decimal.scale : Int))) = 10 ^ decimal.scale := by
    unfold Binary64.powerOfTen
    rw [show (-(0 - (decimal.scale : Int))).toNat = decimal.scale by omega, Nat.pow_eq]
  rw [Binary64.ofDecimal_eq, whole, places, Nat.mul_one]
  rfl

/-- A plain decimal behind a sign is read as the number of that sign that is nearest to it. -/
theorem readUnsigned?_letters_signed (decimal : PlainDecimal) (negative : Bool) :
    Binary64.readUnsigned? negative decimal.letters = some (decimal.signed negative) := by
  rw [← ofDecimal_eq_signed]
  obtain ⟨whole, places?, areDigits, nonempty⟩ := decimal
  rw [List.all_append, Bool.and_eq_true] at areDigits
  obtain ⟨wholeDigits, placesDigits⟩ := areDigits
  have wholeEach := List.all_eq_true.mp wholeDigits
  have atEnd : ∀ letter ∈ ([] : List Char).head?, isDigit letter = false := nofun
  unfold Binary64.readUnsigned? letters digits scale
  cases places? with
  | none =>
      obtain ⟨taken, left⟩ := takeWhile_run wholeEach atEnd
      rw [Option.getD_none] at nonempty
      rw [List.append_nil] at taken left nonempty
      simp only [Option.getD_none, List.append_nil, taken, left, if_neg nonempty, Option.map_some]
  | some places =>
      have ends : ∀ letter ∈ ('.' :: places).head?, isDigit letter = false := by
        rintro _ ⟨rfl⟩
        rfl
      obtain ⟨taken, left⟩ := takeWhile_run wholeEach ends
      obtain ⟨takenPlaces, leftPlaces⟩ := takeWhile_run (List.all_eq_true.mp placesDigits) atEnd
      rw [Option.getD_some] at nonempty
      rw [Option.getD_some, List.append_nil] at takenPlaces leftPlaces
      dsimp only [Option.getD_some]
      simp only [taken, left, takenPlaces, leftPlaces, if_neg nonempty, Option.map_some]

/-- A plain decimal is read as the number that is nearest to it. -/
theorem readUnsigned?_letters (decimal : PlainDecimal) :
    Binary64.readUnsigned? false decimal.letters = some decimal.nearest :=
  decimal.readUnsigned?_letters_signed false

/-- Nothing else that is made of digits and points is read. -/
theorem exists_letters_eq
    {negative : Bool} {text : List Char} {number : Binary64}
    (plain : ∀ letter ∈ text, isDigit letter = true ∨ letter = '.')
    (read : Binary64.readUnsigned? negative text = some number) :
    ∃ decimal : PlainDecimal, decimal.letters = text := by
  have split := List.takeWhile_append_dropWhile (p := isDigit) (l := text)
  have wholeDigits := List.all_takeWhile (p := isDigit) (l := text)
  have stops := List.head?_dropWhile_not isDigit text
  have plainBehind : ∀ letter ∈ text.dropWhile isDigit, isDigit letter = true ∨ letter = '.' :=
    fun letter behind => plain letter (List.dropWhile_subset isDigit behind)
  unfold Binary64.readUnsigned? at read
  generalize text.takeWhile isDigit = whole at *
  generalize text.dropWhile isDigit = behind at *
  subst split
  cases behind with
  | nil =>
      dsimp only at read
      split at read
      next => cases read
      next nonempty =>
        exact ⟨⟨whole, none, by simpa using wholeDigits, nonempty⟩, rfl⟩
  | cons point after =>
      have notDigit : isDigit point = false := stops
      obtain rfl : point = '.' :=
        (plainBehind point List.mem_cons_self).resolve_left (by simp [notDigit])
      have splitPlaces := List.takeWhile_append_dropWhile (p := isDigit) (l := after)
      have placesDigits := List.all_takeWhile (p := isDigit) (l := after)
      simp only at read
      generalize after.takeWhile isDigit = places at *
      generalize after.dropWhile isDigit = others at *
      subst splitPlaces
      split at read
      next => cases read
      next nonempty =>
        cases others with
        | nil =>
            have areDigits : (whole ++ places).all isDigit = true := by
              rw [List.all_append, wholeDigits, placesDigits]
              rfl
            refine ⟨⟨whole, some places, areDigits, nonempty⟩, ?_⟩
            rw [List.append_nil]
            rfl
        | cons mark more =>
            -- A letter that begins an exponent is neither a digit nor a point.
            have plainMark := plainBehind mark (by simp)
            have noExponent : ¬ (mark = 'e' ∨ mark = 'E') := by
              rintro (rfl | rfl) <;> exact absurd plainMark (by decide)
            dsimp only at read
            rw [if_neg noExponent] at read
            cases read

end PlainDecimal
end Telemetry
