import Mathlib.Data.List.Basic
import Telemetry.Json.Reader
import Telemetry.Proofs.Json.Number

/-!
# Written numbers can be read

Whether the point of a decimal is written in place or an exponent is used, a
reader gets its digits and its exponent back.  So every finite number is
written as a text that is read as some number again, which is what the decimal
stands for, and every whole number as a text that is read as itself.
-/

namespace Telemetry
namespace Json

open Bytes Binary64

/-! ## Positional texts -/

theorem isWhole_zero : IsWhole ['0'] where
  digits := rfl
  nonempty := List.cons_ne_nil _ _
  proper := fun _ => rfl
  fits := by decide

/-- A text that a reader takes for a significand and an exponent of ten, whatever follows, as long
as it ends the number. -/
def ReadsDecimal (positive : Bool) (letters : List Char) (decimal : Decimal) : Prop :=
  ∀ rest, EndsNumber rest -> readNumber positive (ofLetters letters ++ rest) =
    finishReal positive decimal.digits decimal.exponent rest

/-- A text with a point and no exponent is read as its digits and the number of its places. -/
theorem readsDecimal_point
    {whole places : List Char}
    (isWhole : IsWhole whole)
    (digits : places.all isDigit = true)
    (nonempty : places ≠ [])
    (fits : digitsValue (whole ++ places) < significandLimit)
    (positive : Bool) :
    ReadsDecimal positive (whole ++ '.' :: places)
      ⟨digitsValue (whole ++ places), -(places.length : Int)⟩ := by
  intro rest ends
  rw [readNumber_point isWhole digits nonempty fits ends.endsDigits,
    readRealEnd_of_endsNumber ends]

/-- Digits of a number that is not zero are a whole part. -/
theorem isWhole_of_front
    {value : Nat} {front back : List Char}
    (split : Decimal.digitChars value = front ++ back)
    (nonzero : value ≠ 0)
    (nonempty : front ≠ [])
    (fits : value < significandLimit) :
    IsWhole front where
  digits := by
    have all := Decimal.isDigit_digitChars value
    rw [split, List.all_append, Bool.and_eq_true_iff] at all
    exact all.1
  nonempty := nonempty
  proper := by
    obtain ⟨first, rest, rfl⟩ := List.exists_cons_of_ne_nil nonempty
    intro zero
    refine absurd ?_ (Decimal.head?_digitChars nonzero)
    rw [split]
    exact zero
  fits := by
    have whole := Decimal.digitsValue_digitChars value
    rw [split, digitsValue_append] at whole
    have weight : 0 < 10 ^ back.length := Nat.pow_pos (by decide)
    have atMost := Nat.le_mul_of_pos_right (digitsValue front) weight
    omega

/-- Digits with zeros behind them and a point are read, if they are few together. -/
theorem readsDecimal_zerosBehind
    {digits zeros : Nat}
    (nonzero : digits ≠ 0)
    (short : (Decimal.digitChars digits).length + zeros ≤ 16)
    (positive : Bool) :
    ReadsDecimal positive
      (Decimal.digitChars digits ++ List.replicate zeros '0' ++ '.' :: ['0'])
      ⟨digits * 10 ^ zeros * 10, -1⟩ := by
  let whole := Decimal.digitChars digits ++ List.replicate zeros '0'
  have all : whole.all isDigit = true := by
    rw [List.all_append, Decimal.isDigit_digitChars, isDigit_replicate]
    rfl
  have length : whole.length ≤ 16 := by
    rw [List.length_append, List.length_replicate]
    exact short
  have value := digitsValue_lt all
  have bound : 10 ^ whole.length ≤ 10 ^ 16 := Nat.pow_le_pow_right (by decide) length
  have limit : (10 ^ 16 + 1) * 10 < significandLimit := by decide
  have proper : whole.head? ≠ some '0' := by
    rw [List.head?_append_of_ne_nil _ (Decimal.digitChars_ne_nil digits)]
    exact Decimal.head?_digitChars nonzero
  have isWhole : IsWhole whole :=
    ⟨all, List.append_ne_nil_of_left_ne_nil (Decimal.digitChars_ne_nil digits) _,
      fun zero => absurd zero proper, by omega⟩
  have spelled : digitsValue (whole ++ ['0']) = digitsValue whole * 10 := digitsValue_append _ _
  have isValue : digitsValue whole = digits * 10 ^ zeros := by
    rw [digitsValue_append, Decimal.digitsValue_digitChars, digitsValue_replicate,
      List.length_replicate, Nat.add_zero]
  have reads := readsDecimal_point isWhole (show ['0'].all isDigit = true from rfl)
    (List.cons_ne_nil _ _) (by rw [spelled]; omega) positive
  rw [spelled, isValue] at reads
  exact reads

/-- Digits with a point between two of them are read. -/
theorem readsDecimal_pointInside
    {digits whole : Nat}
    (nonzero : digits ≠ 0)
    (few : digits < significandLimit)
    (some_whole : 0 < whole)
    (some_places : whole < (Decimal.digitChars digits).length)
    (positive : Bool) :
    ReadsDecimal positive ((Decimal.digitChars digits).take whole ++
        '.' :: (Decimal.digitChars digits).drop whole)
      ⟨digits, -(((Decimal.digitChars digits).length - whole : Nat) : Int)⟩ := by
  have split : Decimal.digitChars digits = (Decimal.digitChars digits).take whole ++
      (Decimal.digitChars digits).drop whole :=
    (List.take_append_drop whole _).symm
  have front : (Decimal.digitChars digits).take whole ≠ [] := by
    refine List.ne_nil_of_length_pos ?_
    rw [List.length_take]
    omega
  have back : (Decimal.digitChars digits).drop whole ≠ [] := by
    refine List.ne_nil_of_length_pos ?_
    rw [List.length_drop]
    omega
  have places : ((Decimal.digitChars digits).drop whole).all isDigit = true := by
    have all := Decimal.isDigit_digitChars digits
    rw [split, List.all_append, Bool.and_eq_true_iff] at all
    exact all.2
  have spelled : digitsValue ((Decimal.digitChars digits).take whole ++
      (Decimal.digitChars digits).drop whole) = digits := by
    rw [← split, Decimal.digitsValue_digitChars]
  have reads := readsDecimal_point (isWhole_of_front split nonzero front few) places back
    (by rw [spelled]; exact few) positive
  rw [spelled, List.length_drop] at reads
  exact reads

/-- Digits behind a zero, a point and more zeros are read. -/
theorem readsDecimal_zerosAhead
    {digits : Nat}
    (few : digits < significandLimit)
    (zeros : Nat)
    (positive : Bool) :
    ReadsDecimal positive
      (['0'] ++ '.' :: (List.replicate zeros '0' ++ Decimal.digitChars digits))
      ⟨digits, -((zeros + (Decimal.digitChars digits).length : Nat) : Int)⟩ := by
  have places : (List.replicate zeros '0' ++ Decimal.digitChars digits).all isDigit = true := by
    rw [List.all_append, isDigit_replicate, Decimal.isDigit_digitChars]
    rfl
  have value : digitsValue (['0'] ++ (List.replicate zeros '0' ++ Decimal.digitChars digits)) =
      digits := by
    rw [digitsValue_append, digitsValue_append, digitsValue_replicate,
      Decimal.digitsValue_digitChars]
    simp [digitsValue, digitValue]
  have reads := readsDecimal_point isWhole_zero places (List.append_ne_nil_of_right_ne_nil _
    (Decimal.digitChars_ne_nil digits)) (by rw [value]; exact few) positive
  rw [value, List.length_append, List.length_replicate] at reads
  exact reads

/-- A decimal as a reader gathers it from a text with a point: a whole number has a zero behind
its point. -/
def withPoint (decimal : Decimal) : Decimal :=
  if 0 ≤ decimal.exponent then ⟨decimal.digits * 10 ^ decimal.exponent.toNat * 10, -1⟩
  else decimal

theorem exponent_withPoint_neg (decimal : Decimal) : (withPoint decimal).exponent < 0 := by
  unfold withPoint
  split
  next => exact Int.negSucc_lt_zero 0
  next negative => exact Int.not_le.mp negative

/-- A decimal whose point is written in place is read, when it has a place or few digits. -/
theorem readsDecimal_writePositional
    {decimal : Decimal}
    (nonzero : decimal.digits ≠ 0)
    (few : decimal.digits < significandLimit)
    (short : (Decimal.digitChars decimal.digits).length + decimal.exponent ≤ 16)
    (positive : Bool) :
    ReadsDecimal positive
      (numberStyle.writePositional (Decimal.digitChars decimal.digits) decimal.exponent)
      (withPoint decimal) := by
  obtain ⟨digits, exponent⟩ := decimal
  dsimp only at *
  unfold DecimalStyle.writePositional withPoint
  split
  next => exact readsDecimal_zerosBehind nonzero (by omega) positive
  next negative =>
    dsimp only
    split
    next inside =>
      have reads := readsDecimal_pointInside nonzero few
        (show 0 < (Decimal.digitChars digits).length - (-exponent).toNat by omega) (by omega)
        positive
      have places : -(((Decimal.digitChars digits).length -
          ((Decimal.digitChars digits).length - (-exponent).toNat) : Nat) : Int) = exponent := by
        omega
      rw [places] at reads
      exact reads
    next =>
      have reads := readsDecimal_zerosAhead few
        ((-exponent).toNat - (Decimal.digitChars digits).length) positive
      have places : -(((-exponent).toNat - (Decimal.digitChars digits).length +
          (Decimal.digitChars digits).length : Nat) : Int) = exponent := by
        omega
      rw [places] at reads
      exact reads

/-! ## Scientific texts -/

/-- The sign and the digits of an exponent, as they are written. -/
theorem writeScientific_eq (first : Char) (rest : List Char) (weight : Int) :
    DecimalStyle.writeScientific (first :: rest) weight =
      (match rest with
        | [] => [first]
        | _ :: _ => first :: '.' :: rest) ++
        'e' :: (if decide (0 ≤ weight) then '+' else '-') :: Decimal.digitChars weight.natAbs := by
  have sign : (if weight < 0 then '-' else '+') = if decide (0 ≤ weight) then '+' else '-' := by
    rcases Int.lt_or_le weight 0 with negative | nonnegative
    · rw [if_pos negative, if_neg (by simpa using negative)]
    · rw [if_neg (Int.not_lt.mpr nonnegative), if_pos (by simpa using nonnegative)]
  unfold DecimalStyle.writeScientific
  rw [sign]
  cases rest <;> rfl

/-- A decimal that is written with an exponent is read. -/
theorem readsDecimal_writeScientific
    {decimal : Decimal}
    (nonzero : decimal.digits ≠ 0)
    (few : decimal.digits ≤ digitsLimit)
    (most : decimal.exponent ≤ 308)
    (least : -346 ≤ decimal.exponent)
    (positive : Bool) :
    ReadsDecimal positive (DecimalStyle.writeScientific (Decimal.digitChars decimal.digits)
      (decimal.exponent + (Decimal.digitChars decimal.digits).length - 1)) decimal := by
  obtain ⟨digits, exponent⟩ := decimal
  dsimp only at *
  have fits : digits < significandLimit := few.trans_lt (by decide)
  have length : (Decimal.digitChars digits).length ≤ 18 := by
    refine (Nat.length_toDigits_le_iff (by decide) (by decide)).mpr (few.trans_lt ?_)
    decide
  have spelled := Decimal.digitsValue_digitChars digits
  have all := Decimal.isDigit_digitChars digits
  obtain ⟨first, rest, split⟩ := List.exists_cons_of_ne_nil (Decimal.digitChars_ne_nil digits)
  have isWhole : IsWhole [first] :=
    isWhole_of_front (show _ = [first] ++ rest from split) nonzero (List.cons_ne_nil _ _) fits
  rw [split] at length spelled all ⊢
  rw [List.length_cons] at length ⊢
  let weight := exponent + ((rest.length + 1 : Nat) : Int) - 1
  have weightValue := Decimal.digitsValue_digitChars weight.natAbs
  have weightDigits := Decimal.isDigit_digitChars weight.natAbs
  have weightSome := Decimal.digitChars_ne_nil weight.natAbs
  have small : digitsValue (Decimal.digitChars weight.natAbs) < exponentLimit := by
    have limit : 1000 < exponentLimit := by decide
    rw [weightValue]
    omega
  have signed : (if decide (0 ≤ weight) = true
      then -(rest.length : Int) + digitsValue (Decimal.digitChars weight.natAbs)
      else -(rest.length : Int) - digitsValue (Decimal.digitChars weight.natAbs)) = exponent := by
    rw [weightValue]
    split
    next nonnegative =>
      have up := of_decide_eq_true nonnegative
      omega
    next negative =>
      have down := of_decide_eq_false (Bool.eq_false_iff.mpr negative)
      omega
  rw [writeScientific_eq]
  intro following ends
  cases rest with
  | nil =>
      refine (readNumber_exponent isWhole weightDigits weightSome small ends.endsDigits
        (decide (0 ≤ weight)) positive).trans ?_
      rw [List.length_nil, Int.natCast_zero, Int.neg_zero] at signed
      rw [signed, spelled]
  | cons second others =>
      have places : (second :: others).all isDigit = true := by
        rw [List.all_cons, Bool.and_eq_true_iff] at all
        exact all.2
      have value : digitsValue ([first] ++ second :: others) = digits := spelled
      refine (readNumber_point_exponent isWhole places (List.cons_ne_nil _ _)
        (by rw [value]; exact fits) weightDigits weightSome small ends.endsDigits
        (decide (0 ≤ weight)) positive).trans ?_
      rw [signed, value]

/-! ## Numbers -/

/-- The decimal that a reader gathers from the text of a magnitude. -/
def gathered (magnitude : Nat) : Decimal :=
  if magnitude = 0 then ⟨0, -1⟩
  else
    let decimal := shortest numberStyle.tie magnitude
    if numberStyle.positional
        (decimal.exponent + (Decimal.digitChars decimal.digits).length - 1) then
      withPoint decimal
    else decimal

/-- The decimal of a number that is not zero is short and in range. -/
theorem shortest_numberStyle
    {magnitude : Nat}
    (nonzero : magnitude ≠ 0)
    (finite : magnitude < infiniteMagnitude) :
    (shortest numberStyle.tie magnitude).digits ≠ 0 ∧
      (shortest numberStyle.tie magnitude).digits ≤ digitsLimit ∧
      IsInRange (shortest numberStyle.tie magnitude).digits
        (shortest numberStyle.tie magnitude).exponent ∧
      -346 ≤ (shortest numberStyle.tie magnitude).exponent := by
  rw [show numberStyle.tie = .even from rfl]
  exact ⟨(shortest_spec finite _).1, digits_shortest_le (Nat.pos_iff_ne_zero.mpr nonzero) finite _,
    isInRange_shortest finite, le_exponent_shortest finite _⟩

/-- The text of a finite magnitude is read as the decimal that is gathered from it. -/
theorem readsDecimal_writeMagnitude
    {magnitude : Nat}
    (finite : magnitude < infiniteMagnitude)
    (positive : Bool) :
    ReadsDecimal positive (numberStyle.writeMagnitude magnitude) (gathered magnitude) := by
  unfold DecimalStyle.writeMagnitude gathered
  split
  next zero => exact readsDecimal_point isWhole_zero rfl (List.cons_ne_nil _ _) (by decide) positive
  next nonzero =>
    obtain ⟨some_digits, few, inRange, least⟩ := shortest_numberStyle nonzero finite
    generalize shortest numberStyle.tie magnitude = decimal at *
    dsimp only
    split
    next positional =>
      have bounds := of_decide_eq_true (Bool.and_eq_true_iff.mp positional).2
      exact readsDecimal_writePositional some_digits (few.trans_lt (by decide)) (by omega) positive
    next =>
      exact readsDecimal_writeScientific some_digits few
        (exponent_le_of_isInRange some_digits inRange) least positive

/-- A number that is read begins with a digit. -/
theorem exists_digit_of_readNumber
    {positive : Bool} {input rest : Bytes} {number : Number}
    (read : readNumber positive input = .ok (number, rest)) :
    ∃ first after, input = first :: after ∧ isDigitByte first = true := by
  unfold readNumber at read
  split at read
  next => cases read
  next first after =>
    split at read
    next digit => exact ⟨first, after, rfl, digit⟩
    next => cases read

/-- A digit is no blank and no sign. -/
theorem digit_cases {byte : UInt8} (digit : isDigitByte byte = true) :
    isSpace byte = false ∧ byte ≠ 0x2d := by
  have low : (0x30 : UInt8) ≤ byte := of_decide_eq_true (Bool.and_eq_true_iff.mp digit).1
  have number : 48 ≤ byte.toNat := UInt8.le_iff_toNat_le.mp low
  have differs {other : UInt8} (small : other.toNat < 48) : byte ≠ other := by
    rintro rfl
    omega
  refine ⟨?_, differs (by decide)⟩
  have blanks : (byte == 0x20) = false ∧ (byte == 0x0a) = false ∧ (byte == 0x0d) = false ∧
      (byte == 0x09) = false := by
    simp only [beq_eq_false_iff_ne]
    exact ⟨differs (by decide), differs (by decide), differs (by decide), differs (by decide)⟩
  rw [isSpace, blanks.1, blanks.2.1, blanks.2.2.1, blanks.2.2.2]
  rfl

/-- A number is read with its sign. -/
theorem number_of_readNumber
    {negative : Bool} {input rest : Bytes} {value : Number}
    (read : readNumber (!negative) input = .ok (value, rest))
    (expected : String) :
    number expected ((if negative then [0x2d] else []) ++ input) = .ok (value, rest) := by
  obtain ⟨first, after, rfl, digit⟩ := exists_digit_of_readNumber read
  obtain ⟨solid, noSign⟩ := digit_cases digit
  cases negative with
  | true => exact read
  | false =>
      change number expected (first :: after) = _
      rw [number, skipSpace, solid]
      simp only [Bool.false_eq_true, if_false, if_neg noSign, digit, if_true]
      exact read

theorem ofLetters_minus (letters : List Char) :
    ofLetters ('-' :: letters) = 0x2d :: ofLetters letters :=
  ofLetters_ascii (by decide) letters

theorem ofText_numberText
    {value : Binary64}
    (finite : value.isFinite = true) :
    ofText (numberText value) = (if value.isNegative then [0x2d] else []) ++
      ofLetters (numberStyle.writeMagnitude value.magnitude) := by
  rw [numberText, if_pos finite, ofText_eq_ofLetters, DecimalStyle.write]
  cases value.isNegative with
  | true =>
      rw [if_pos rfl, if_pos rfl, ofLetters_minus]
      rw [List.singleton_append]
  | false => rw [if_neg Bool.false_ne_true, if_neg Bool.false_ne_true, List.nil_append]

/-- The decimal that is gathered is the shortest one, which may have got a point. -/
theorem gathered_cases (magnitude : Nat) :
    (magnitude = 0 ∧ gathered magnitude = ⟨0, -1⟩) ∨
      (magnitude ≠ 0 ∧ (gathered magnitude = withPoint (shortest numberStyle.tie magnitude) ∨
        gathered magnitude = shortest numberStyle.tie magnitude)) := by
  unfold gathered
  by_cases zero : magnitude = 0
  · exact Or.inl ⟨zero, if_pos zero⟩
  · refine Or.inr ⟨zero, ?_⟩
    rw [if_neg zero]
    exact ite_eq_or_eq _ _ _

/-- The decimal that is gathered from the text of a finite magnitude stands for a number. -/
theorem exists_realOfParts_gathered
    {magnitude : Nat}
    (finite : magnitude < infiniteMagnitude)
    (positive : Bool) :
    ∃ back,
      realOfParts positive (gathered magnitude).digits (gathered magnitude).exponent =
        .ok back := by
  rcases gathered_cases magnitude with ⟨-, zero⟩ | ⟨nonzero, pointed | plain⟩
  · rw [zero]
    exact exists_realOfParts_of_neg (Int.negSucc_lt_zero 0) positive _
  · rw [pointed]
    exact exists_realOfParts_of_neg (exponent_withPoint_neg _) positive _
  · obtain ⟨some_digits, few, inRange, -⟩ := shortest_numberStyle nonzero finite
    rw [plain]
    exact exists_realOfParts some_digits few inRange positive

/-- The text of a finite number is read as the number that its decimal stands for, whatever ends
it. -/
theorem exists_real
    {value : Binary64}
    (finite : value.isFinite = true) :
    ∃ back, realOfParts (!value.isNegative) (gathered value.magnitude).digits
        (gathered value.magnitude).exponent = .ok back ∧
      ∀ rest, EndsNumber rest -> real (ofText (numberText value) ++ rest) = .ok (back, rest) := by
  have bounded := of_decide_eq_true finite
  obtain ⟨back, scaled⟩ := exists_realOfParts_gathered bounded (!value.isNegative)
  refine ⟨back, scaled, fun rest ends => ?_⟩
  have reads := readsDecimal_writeMagnitude bounded (!value.isNegative) rest ends
  rw [finishReal, scaled] at reads
  rw [ofText_numberText finite, List.append_assoc, real, number_of_readNumber reads]
  rfl

/-! ## Whole numbers -/

/-- The digits of a number below the limit of significands are a whole part. -/
theorem isWhole_digitChars {value : Nat} (fits : value < significandLimit) :
    IsWhole (Decimal.digitChars value) := by
  rcases Nat.eq_zero_or_pos value with rfl | positive
  · exact isWhole_zero
  · exact isWhole_of_front (List.append_nil _).symm (Nat.pos_iff_ne_zero.mp positive)
      (Decimal.digitChars_ne_nil value) fits

theorem ofText_toString (value : Int) :
    ofText (toString value) = (if decide (value < 0) then [0x2d] else []) ++
      ofLetters (Decimal.digitChars value.natAbs) := by
  cases value with
  | ofNat size => exact ofText_eq_ofLetters _
  | negSucc size =>
      have minus : ofText "-" = [0x2d] := by decide
      change ofText ("-" ++ (size + 1).repr) = _
      rw [ofText_append, minus, if_pos (decide_eq_true (Int.negSucc_lt_zero size))]
      exact congrArg _ (ofText_eq_ofLetters _)

/-- A whole number of sixty-four bits is read as itself, whatever ends it. -/
theorem int64_toString
    (value : Int64)
    {rest : Bytes}
    (ends : EndsNumber rest) :
    int64 (ofText (toString value.toInt) ++ rest) = .ok (value, rest) := by
  have low := value.le_toInt
  have high := value.toInt_lt
  have limit : significandLimit = 2 ^ 64 := rfl
  have fits : value.toInt.natAbs < significandLimit := by omega
  have read := readNumber_of_endsNumber (isWhole_digitChars fits) ends (!decide (value.toInt < 0))
  rw [Decimal.digitsValue_digitChars] at read
  rw [ofText_toString, List.append_assoc, int64, number_of_readNumber read]
  rcases Int.lt_or_le value.toInt 0 with negative | nonnegative
  · have whole : wholeNumber (!decide (value.toInt < 0)) value.toInt.natAbs =
        .negative value.toInt := by
      have room : ¬ (value.toInt.natAbs = 0 ∨ 1 <<< 63 < value.toInt.natAbs) := by
        rw [Nat.shiftLeft_eq]
        omega
      have back : -(value.toInt.natAbs : Int) = value.toInt := by omega
      rw [decide_eq_true negative, wholeNumber, Bool.not_true, if_neg Bool.false_ne_true,
        if_neg room, back]
    rw [whole]
    dsimp only
    rw [Int64.ofInt_toInt]
  · have whole : wholeNumber (!decide (value.toInt < 0)) value.toInt.natAbs =
        .natural value.toInt.natAbs := by
      rw [decide_eq_false (Int.not_lt.mpr nonnegative)]
      rfl
    have room : value.toInt.natAbs < 1 <<< 63 := by
      rw [Nat.shiftLeft_eq]
      omega
    have back : Int64.ofNat value.toInt.natAbs = value := by
      rw [← Int64.ofInt_eq_ofNat, Int.natAbs_of_nonneg nonnegative, Int64.ofInt_toInt]
    rw [whole]
    dsimp only
    rw [if_pos room, back]

end Json
end Telemetry
