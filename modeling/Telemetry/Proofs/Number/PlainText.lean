import Telemetry.Metric
import Telemetry.Proofs.Number.Reading

/-!
# Values come back from their plain texts

The plain text of a finite number is a decimal that is nearest to that number
and to no other, so it is read as the number, bit for bit, the sign of zero
included.  The words for infinity are read as infinity, and the one for "not a
number" as one of its spellings.  The text of a whole number is read as itself.
-/

namespace Telemetry
namespace Binary64

/-- Equality of bits, with everything that stands for no number counted as equal. -/
def SameBits (left right : Binary64) : Prop :=
  left = right ∨ (left.isNaN = true ∧ right.isNaN = true)

/-! ## Decimals without an exponent -/

/-- The decimal that is written for a finite magnitude. -/
def writtenDecimal (magnitude : Nat) : Decimal :=
  if magnitude = 0 then ⟨0, 0⟩ else shortest .up magnitude

/-- The plain text of a finite magnitude has its point in place. -/
theorem writeMagnitude_plainStyle (magnitude : Nat) :
    plainStyle.writeMagnitude magnitude =
      plainStyle.writePositional (Decimal.digitChars (writtenDecimal magnitude).digits)
        (writtenDecimal magnitude).exponent := by
  have zero : Decimal.digitChars 0 = ['0'] := by decide
  unfold DecimalStyle.writeMagnitude writtenDecimal
  split
  next => rw [zero]
  next => exact if_pos rfl

/-- A decimal that is written with its point in place is a plain decimal of the same value. -/
theorem exists_plainDecimal (decimal : Decimal) :
    ∃ plain : PlainDecimal,
      plain.letters =
        plainStyle.writePositional (Decimal.digitChars decimal.digits) decimal.exponent ∧
      plain.digits = decimal.digits * powerOfTen decimal.exponent ∧
      10 ^ plain.scale = powerOfTen (-decimal.exponent) := by
  obtain ⟨digits, exponent⟩ := decimal
  have areDigits := Decimal.isDigit_digitChars digits
  have nonempty := Decimal.digitChars_ne_nil digits
  have value := Decimal.digitsValue_digitChars digits
  unfold DecimalStyle.writePositional powerOfTen
  dsimp only
  rw [Nat.pow_eq, Nat.pow_eq]
  generalize Decimal.digitChars digits = letters at *
  split
  next whole =>
    refine ⟨⟨letters ++ List.replicate exponent.toNat '0', none, ?_, ?_⟩, rfl, ?_, ?_⟩
    · rw [Option.getD_none, List.append_nil, List.all_append, areDigits, isDigit_replicate]
      rfl
    · exact List.append_ne_nil_of_left_ne_nil (List.append_ne_nil_of_left_ne_nil nonempty _) _
    · change digitsValue (letters ++ List.replicate exponent.toNat '0' ++ []) = _
      rw [List.append_nil, digitsValue_append, digitsValue_replicate, List.length_replicate,
        value, Nat.add_zero]
    · rw [show (-exponent).toNat = 0 by omega]
      rfl
  next fraction =>
    have unscaled : exponent.toNat = 0 := by omega
    rw [unscaled, Nat.pow_zero, Nat.mul_one]
    split
    next inside =>
      have split := List.take_append_drop (letters.length - (-exponent).toNat) letters
      refine ⟨⟨letters.take (letters.length - (-exponent).toNat),
        some (letters.drop (letters.length - (-exponent).toNat)), ?_, ?_⟩, rfl, ?_, ?_⟩
      · rw [Option.getD_some, split, areDigits]
      · rw [Option.getD_some, split]
        exact nonempty
      · exact (congrArg digitsValue split).trans value
      · change 10 ^ (letters.drop (letters.length - (-exponent).toNat)).length = _
        rw [List.length_drop]
        congr 1
        omega
    next ahead =>
      have zeros : '0' :: List.replicate ((-exponent).toNat - letters.length) '0' =
          List.replicate ((-exponent).toNat - letters.length + 1) '0' :=
        List.replicate_succ.symm
      refine ⟨⟨['0'], some (List.replicate ((-exponent).toNat - letters.length) '0' ++ letters),
        ?_, List.cons_ne_nil _ _⟩, rfl, ?_, ?_⟩
      · change ('0' :: List.replicate ((-exponent).toNat - letters.length) '0' ++ letters).all
          isDigit = true
        rw [zeros, List.all_append, isDigit_replicate, areDigits]
        rfl
      · change digitsValue ('0' :: List.replicate ((-exponent).toNat - letters.length) '0' ++
          letters) = _
        rw [zeros, digitsValue_append, digitsValue_replicate, value, Nat.zero_mul, Nat.zero_add]
      · change 10 ^ (List.replicate ((-exponent).toNat - letters.length) '0' ++ letters).length = _
        rw [List.length_append, List.length_replicate]
        congr 1
        omega

/-- What is written for a finite magnitude is nearest to it. -/
theorem roundRatio_writtenDecimal
    {magnitude : Nat}
    (finite : magnitude < infiniteMagnitude) :
    roundRatio ((writtenDecimal magnitude).digits * powerOfTen (writtenDecimal magnitude).exponent)
      (powerOfTen (-(writtenDecimal magnitude).exponent)) = magnitude := by
  unfold writtenDecimal
  split
  next zero =>
    subst zero
    decide +kernel
  next =>
    refine roundUnits_eq_of_contains finite (powerOfTen_pos _) ?_
    rw [quarterUnits_eq]
    exact (shortest_spec finite .up).2

/-- The plain text of a finite magnitude is a plain decimal that is nearest to it. -/
theorem exists_writeMagnitude_eq
    {magnitude : Nat}
    (finite : magnitude < infiniteMagnitude) :
    ∃ plain : PlainDecimal, plain.letters = plainStyle.writeMagnitude magnitude ∧
      ∀ negative, plain.signed negative = ofMagnitude negative magnitude := by
  obtain ⟨plain, letters, digits, scale⟩ := exists_plainDecimal (writtenDecimal magnitude)
  refine ⟨plain, letters.trans (writeMagnitude_plainStyle magnitude).symm, fun negative => ?_⟩
  rw [PlainDecimal.signed, digits, scale, roundRatio_writtenDecimal finite]

/-! ## Reading plain texts -/

/-- Digits and points are the same in lower case. -/
theorem toLower_of_isDigit_or_point
    {letter : Char}
    (plain : isDigit letter = true ∨ letter = '.') :
    letter.toLower = letter := by
  rcases plain with digit | rfl
  · obtain ⟨-, high⟩ := toNat_of_isDigit digit
    unfold Char.toLower
    refine dif_neg ?_
    rintro ⟨upper, -⟩
    have large : 65 ≤ letter.toNat := upper
    omega
  · rfl

/-- A plain decimal is none of the words that stand for numbers. -/
theorem readMagnitude?_letters (decimal : PlainDecimal) (negative : Bool) :
    readMagnitude? negative decimal.letters = some (decimal.signed negative) := by
  have lowered : decimal.letters.map Char.toLower = decimal.letters := by
    refine (List.map_congr_left fun letter present => ?_).trans (List.map_id _)
    exact toLower_of_isDigit_or_point (PlainDecimal.isDigit_or_point_of_mem present)
  have noWord {word : List Char} (first : Char) (begins : word.head? = some first)
      (other : ¬(isDigit first = true ∨ first = '.')) : decimal.letters ≠ word := by
    rintro rfl
    exact other (PlainDecimal.isDigit_or_point_of_mem (List.mem_of_mem_head? begins))
  unfold readMagnitude?
  dsimp only
  rw [lowered, if_neg (noWord 'n' rfl (by decide)),
    if_neg (not_or.mpr ⟨noWord 'i' rfl (by decide), noWord 'i' rfl (by decide)⟩)]
  exact decimal.readUnsigned?_letters_signed negative

/-- A finite number comes back from its plain text, bit for bit. -/
theorem read?_plainText_of_isFinite
    {value : Binary64}
    (finite : value.isFinite = true) :
    read? value.plainText = some value := by
  have bounded : value.magnitude < infiniteMagnitude := of_decide_eq_true finite
  have isNumber : value.isNaN = false := decide_eq_false (by omega)
  have notInfinite : value.isInfinite = false := beq_eq_false_iff_ne.mpr (by omega)
  obtain ⟨plain, letters, nearest⟩ := exists_writeMagnitude_eq bounded
  have reads := readMagnitude?_letters plain value.isNegative
  rw [nearest, ofMagnitude_self] at reads
  unfold plainText DecimalStyle.write
  rw [isNumber, notInfinite, ← letters]
  unfold read?
  simp only [Bool.false_eq_true, if_false, String.toList_ofList]
  cases negative : value.isNegative with
  | true =>
      rw [negative] at reads
      exact reads
  | false =>
      rw [negative] at reads
      simp only [Bool.false_eq_true, if_false]
      -- A decimal has no sign of its own in front.
      obtain ⟨first, rest, split⟩ := List.exists_cons_of_ne_nil plain.letters_ne_nil
      have present : first ∈ plain.letters := split ▸ List.mem_cons_self
      have isPlain := PlainDecimal.isDigit_or_point_of_mem present
      rw [split] at reads ⊢
      split
      next same => cases same; exact absurd isPlain (by decide)
      next same => cases same; exact absurd isPlain (by decide)
      next => exact reads

theorem read?_plainText_of_isInfinite
    {value : Binary64}
    (infinite : value.isInfinite = true) :
    read? value.plainText = some value := by
  have isMagnitude : value.magnitude = infiniteMagnitude := beq_iff_eq.mp infinite
  have isNumber : value.isNaN = false := decide_eq_false (by omega)
  have same := ofMagnitude_self value
  rw [isMagnitude] at same
  unfold plainText
  rw [isNumber, infinite]
  cases negative : value.isNegative with
  | true =>
      rw [negative] at same
      rw [← same]
      decide
  | false =>
      rw [negative] at same
      rw [← same]
      decide

/-- A number comes back from its plain text, bit for bit, if it is one. -/
theorem exists_read?_plainText (value : Binary64) :
    ∃ back, read? value.plainText = some back ∧ back.SameBits value := by
  rcases Nat.lt_trichotomy value.magnitude infiniteMagnitude with finite | infinite | stands
  · exact ⟨value, read?_plainText_of_isFinite (decide_eq_true finite), Or.inl rfl⟩
  · exact ⟨value, read?_plainText_of_isInfinite (beq_iff_eq.mpr infinite), Or.inl rfl⟩
  · have isNaN : value.isNaN = true := decide_eq_true stands
    refine ⟨notANumber, ?_, Or.inr ⟨by decide, isNaN⟩⟩
    rw [plainText, isNaN, if_pos rfl]
    decide

/-! ## The letters of plain texts -/

/-- Whether a letter may occur in a plain text: a digit, a sign, a point or one of the words. -/
def isPlainLetter (letter : Char) : Bool :=
  isDigit letter || "-.NaNinf".toList.contains letter

theorem isPlainLetter_of_mem_plainText
    {value : Binary64} {letter : Char}
    (present : letter ∈ value.plainText.toList) :
    isPlainLetter letter = true := by
  have inWord {word : String} (plain : word.toList.all isPlainLetter = true)
      (within : letter ∈ word.toList) : isPlainLetter letter = true :=
    List.all_eq_true.mp plain letter within
  unfold plainText at present
  split at present
  next => exact inWord (by decide) present
  next isNumber =>
    split at present
    next =>
      split at present
      next => exact inWord (by decide) present
      next => exact inWord (by decide) present
    next notInfinite =>
      have finite : value.magnitude < infiniteMagnitude := by
        have atMost := of_decide_eq_false (Bool.eq_false_iff.mpr isNumber)
        have other := mt beq_iff_eq.mpr notInfinite
        omega
      obtain ⟨plain, letters, -⟩ := exists_writeMagnitude_eq finite
      have inDecimal (within : letter ∈ plain.letters) : isPlainLetter letter = true := by
        rcases PlainDecimal.isDigit_or_point_of_mem within with digit | rfl
        · rw [isPlainLetter, digit, Bool.true_or]
        · decide
      rw [String.toList_ofList, DecimalStyle.write, ← letters] at present
      split at present
      next =>
        rcases List.mem_cons.mp present with rfl | behind
        · decide
        · exact inDecimal behind
      next => exact inDecimal present

end Binary64

/-! ## Whole numbers -/

theorem readDigits?_digitChars (size : Nat) :
    readDigits? (Decimal.digitChars size) = some size := by
  rw [readDigits?, if_pos ⟨Decimal.digitChars_ne_nil size, Decimal.isDigit_digitChars size⟩,
    Decimal.digitsValue_digitChars]

theorem readNatural?_digitChars
    {limit size : Nat}
    (fits : size < limit) :
    readNatural? limit (Decimal.digitChars size) = some size := by
  have reads := readDigits?_digitChars size
  have digits := List.all_eq_true.mp (Decimal.isDigit_digitChars size)
  unfold readNatural?
  generalize Decimal.digitChars size = letters at *
  split
  next rest => exact absurd (digits '+' List.mem_cons_self) (by decide)
  next => rw [reads, Option.bind_eq_bind, Option.bind_some, if_pos fits]

/-- A whole number of sixty-four bits comes back from its text. -/
theorem readInt64?_toString (value : Int64) :
    readInt64? (toString value.toInt).toList = some value.toInt := by
  have low := value.le_toInt
  have high := value.toInt_lt
  generalize value.toInt = number at *
  cases number with
  | ofNat size =>
      have letters : (toString (Int.ofNat size)).toList = Decimal.digitChars size := by
        simp [toString, Int.repr, Nat.repr, Decimal.digitChars]
      have digits := List.all_eq_true.mp (Decimal.isDigit_digitChars size)
      have fits : size < 1 <<< 63 := by
        rw [Int.ofNat_eq_natCast] at high
        rw [Nat.shiftLeft_eq]
        omega
      have reads := readNatural?_digitChars fits
      rw [letters]
      generalize Decimal.digitChars size = spelled at *
      unfold readInt64?
      split
      next rest => exact absurd (digits '-' List.mem_cons_self) (by decide)
      next => rw [reads]; rfl
  | negSucc size =>
      have letters : (toString (Int.negSucc size)).toList =
          '-' :: Decimal.digitChars (size + 1) := by
        simp [toString, Int.repr, Nat.repr, Decimal.digitChars]
      have fits : size + 1 ≤ 1 <<< 63 := by
        rw [Nat.shiftLeft_eq]
        omega
      rw [letters, readInt64?, readDigits?_digitChars, Option.bind_eq_bind, Option.bind_some,
        if_pos fits]
      rfl

/-! ## Updates -/

namespace Update

/-- The text of a gauge's value sets it to that value again. -/
theorem parse_plainText (name : String) (value : Binary64) :
    ∃ back, parse "gauge" name value.plainText = .ok (.gauge name back) ∧ back.SameBits value := by
  obtain ⟨back, reads, same⟩ := value.exists_read?_plainText
  refine ⟨back, ?_, same⟩
  have gauge : MetricKind.ofName? "gauge" = some .gauge := MetricKind.ofName?_name .gauge
  rw [parse, gauge]
  dsimp only
  rw [reads]

/-- The text of a counter's value is read as that value. -/
theorem parse_toString (name : String) (delta : Int64) :
    parse "counter" name (toString delta.toInt) = .ok (.counter name delta) := by
  have counter : MetricKind.ofName? "counter" = some .counter := MetricKind.ofName?_name .counter
  rw [parse, counter]
  dsimp only
  rw [readInt64?_toString]
  dsimp only
  rw [Int64.ofInt_toInt]

/-- The text of a value has neither a colon nor what means something in a page or a path. -/
theorem isPlainLetter_of_mem_valueText
    {update : Update} {letter : Char}
    (present : letter ∈ update.valueText.toList) :
    Binary64.isPlainLetter letter = true := by
  cases update with
  | gauge name value => exact Binary64.isPlainLetter_of_mem_plainText present
  | counter name delta =>
      rcases eq_minus_or_isDigit_of_mem_toString present with rfl | digit
      · decide
      · have isDigit : isDigit letter = true := digit
        rw [Binary64.isPlainLetter, isDigit, Bool.true_or]

end Update
end Telemetry
