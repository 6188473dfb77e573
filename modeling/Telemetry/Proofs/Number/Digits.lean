import Mathlib.Tactic.Ring
import Telemetry.Number.Reading
import Telemetry.Number.Shortest

/-!
# The digits of a number

A natural number comes back from its decimal digits, and only zero begins with
a zero.  A row of digits ends where what follows does not begin with another.
-/

namespace Telemetry

/-- The longest run of letters that pass a test ends where the rest does not go on with it. -/
theorem takeWhile_run
    {α : Type} {test : α -> Bool} {front rest : List α}
    (passes : ∀ letter ∈ front, test letter = true)
    (ends : ∀ letter ∈ rest.head?, test letter = false) :
    (front ++ rest).takeWhile test = front ∧ (front ++ rest).dropWhile test = rest := by
  rw [List.takeWhile_append_of_pos passes, List.dropWhile_append_of_pos passes]
  cases rest with
  | nil => exact ⟨List.append_nil front, rfl⟩
  | cons letter after =>
      have other := ends letter rfl
      rw [List.takeWhile_cons_of_neg (by simp [other]),
        List.dropWhile_cons_of_neg (by simp [other]), List.append_nil]
      exact ⟨rfl, rfl⟩

/-- A whole number is written in digits, behind a minus sign if it is negative. -/
theorem eq_minus_or_isDigit_of_mem_toString
    {number : Int} {letter : Char}
    (present : letter ∈ (toString number).toList) :
    letter = '-' ∨ letter.isDigit = true := by
  have digit {value : Nat} (isLater : letter ∈ Nat.toDigits 10 value) : letter.isDigit = true :=
    Nat.isDigit_of_mem_toDigits (by decide) (by decide) isLater
  cases number with
  | ofNat value =>
      have digits : (toString (Int.ofNat value)).toList = Nat.toDigits 10 value := by
        simp [toString, Int.repr, Nat.repr]
      exact Or.inr (digit (digits ▸ present))
  | negSucc value =>
      have digits : (toString (Int.negSucc value)).toList =
          '-' :: Nat.toDigits 10 (value + 1) := by
        simp [toString, Int.repr, Nat.repr]
      rw [digits] at present
      exact (List.mem_cons.mp present).imp_right digit

/-- Digits that are read on from a total add to it by its weight. -/
theorem foldl_digits_eq (letters : List Char) (total : Nat) :
    letters.foldl (fun total digit => total * 10 + digitValue digit) total =
      total * 10 ^ letters.length + digitsValue letters := by
  unfold digitsValue
  induction letters generalizing total with
  | nil => simp
  | cons digit rest inductionHypothesis =>
      rw [List.foldl_cons, List.foldl_cons, inductionHypothesis,
        inductionHypothesis (0 * 10 + digitValue digit), List.length_cons]
      ring

/-- Digits behind others add to them by their weight. -/
theorem digitsValue_append (front back : List Char) :
    digitsValue (front ++ back) = digitsValue front * 10 ^ back.length + digitsValue back := by
  rw [digitsValue, List.foldl_append]
  exact foldl_digits_eq back (digitsValue front)

theorem digitsValue_replicate (count : Nat) : digitsValue (List.replicate count '0') = 0 := by
  induction count with
  | zero => rfl
  | succ count inductionHypothesis =>
      rw [List.replicate_succ', digitsValue_append, inductionHypothesis]
      rfl

theorem isDigit_replicate (count : Nat) : (List.replicate count '0').all isDigit = true := by
  rw [List.all_eq_true]
  intro letter present
  rw [List.eq_of_mem_replicate present]
  rfl

theorem toNat_of_isDigit
    {letter : Char}
    (digit : isDigit letter = true) :
    48 ≤ letter.toNat ∧ letter.toNat ≤ 57 :=
  (Bool.and_eq_true_iff.mp digit).imp of_decide_eq_true of_decide_eq_true

theorem digitValue_le {letter : Char} (digit : isDigit letter = true) : digitValue letter ≤ 9 := by
  have bounds := toNat_of_isDigit digit
  unfold digitValue
  omega

/-- Some digits spell a number below the power of ten that has one digit more. -/
theorem digitsValue_lt
    {letters : List Char}
    (digits : letters.all isDigit = true) :
    digitsValue letters < 10 ^ letters.length := by
  induction letters with
  | nil => exact Nat.one_pos
  | cons first rest inductionHypothesis =>
      obtain ⟨digit, digitsRest⟩ := Bool.and_eq_true_iff.mp (List.all_cons ▸ digits)
      have small := digitValue_le digit
      have smallRest := inductionHypothesis digitsRest
      have split := digitsValue_append [first] rest
      have one : digitsValue [first] = digitValue first := by simp [digitsValue]
      rw [List.singleton_append, one] at split
      rw [split, List.length_cons, Nat.pow_succ]
      have weight := Nat.mul_le_mul_right (10 ^ rest.length) small
      omega

namespace Decimal

theorem isDigit_digitChar : ∀ {value : Nat}, value < 10 -> isDigit value.digitChar = true := by
  decide

theorem digitValue_digitChar :
    ∀ {value : Nat}, value < 10 -> digitValue value.digitChar = value := by
  decide

/-- The digits of a number are those of its tenth and the last one. -/
theorem digitChars_of_le {value : Nat} (large : 10 ≤ value) :
    digitChars value = digitChars (value / 10) ++ [(value % 10).digitChar] :=
  Nat.toDigits_of_base_le (by decide) large

theorem digitChars_of_lt {value : Nat} (small : value < 10) :
    digitChars value = [value.digitChar] :=
  Nat.toDigits_of_lt_base small

theorem isDigit_digitChars (value : Nat) : (digitChars value).all isDigit = true := by
  induction value using Nat.strongRecOn with
  | ind value inductionHypothesis =>
      rcases Nat.lt_or_ge value 10 with small | large
      · rw [digitChars_of_lt small, List.all_cons, isDigit_digitChar small]
        rfl
      · rw [digitChars_of_le large, List.all_append, inductionHypothesis (value / 10) (by omega),
          List.all_cons, isDigit_digitChar (Nat.mod_lt _ (by decide))]
        rfl

/-- A number comes back from its digits. -/
theorem digitsValue_digitChars (value : Nat) : digitsValue (digitChars value) = value := by
  induction value using Nat.strongRecOn with
  | ind value inductionHypothesis =>
      rcases Nat.lt_or_ge value 10 with small | large
      · rw [digitChars_of_lt small]
        simp [digitsValue, digitValue_digitChar small]
      · rw [digitChars_of_le large, digitsValue_append,
          inductionHypothesis (value / 10) (by omega)]
        simp [digitsValue, digitValue_digitChar (Nat.mod_lt value (show 0 < 10 by decide))]
        omega

theorem digitChars_ne_nil (value : Nat) : digitChars value ≠ [] := by
  rcases Nat.lt_or_ge value 10 with small | large
  · rw [digitChars_of_lt small]
    exact List.cons_ne_nil _ _
  · rw [digitChars_of_le large]
    exact List.append_ne_nil_of_right_ne_nil _ (List.cons_ne_nil _ _)

theorem digitChar_ne_zero : ∀ {value : Nat}, value < 10 -> value ≠ 0 -> value.digitChar ≠ '0' := by
  decide

/-- Only zero begins with a zero. -/
theorem head?_digitChars {value : Nat} (nonzero : value ≠ 0) :
    (digitChars value).head? ≠ some '0' := by
  induction value using Nat.strongRecOn with
  | ind value inductionHypothesis =>
      rcases Nat.lt_or_ge value 10 with small | large
      · rw [digitChars_of_lt small]
        exact fun same => digitChar_ne_zero small nonzero (Option.some.inj same)
      · have front := inductionHypothesis (value / 10) (by omega) (by omega)
        obtain ⟨first, rest, split⟩ := List.exists_cons_of_ne_nil (digitChars_ne_nil (value / 10))
        rw [digitChars_of_le large]
        rw [split] at front ⊢
        exact front

end Decimal
end Telemetry
