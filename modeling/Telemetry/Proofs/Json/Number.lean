import Telemetry.Proofs.Json.Scaling
import Telemetry.Proofs.Number.Digits
import Telemetry.Proofs.Text.Encoding

/-!
# Reading the parts of a number

A reader goes on to the end of a number and leaves what follows.  A number
whose digits fit sixty-four bits is read as what all its digits spell, scaled
by its exponent less the number of its places.
-/

namespace Telemetry
namespace Json

open Bytes

/-! ## Digits as bytes -/

/-- What follows does not go on with the digits of a number. -/
def EndsDigits (rest : Bytes) : Prop :=
  ∀ byte, rest.head? = some byte -> isDigitByte byte = false

/-- What follows does not go on with a number. -/
def EndsNumber (rest : Bytes) : Prop :=
  ∀ byte, rest.head? = some byte ->
    isDigitByte byte = false ∧ byte ≠ 0x2e ∧ byte ≠ 0x65 ∧ byte ≠ 0x45

theorem EndsNumber.endsDigits {rest : Bytes} (ends : EndsNumber rest) : EndsDigits rest :=
  fun byte first => (ends byte first).1

theorem endsDigits_cons
    {byte : UInt8}
    (other : isDigitByte byte = false)
    (rest : Bytes) :
    EndsDigits (byte :: rest) := by
  intro first same
  rw [← Option.some.inj same]
  exact other

/-- The byte of a digit. -/
theorem utf8EncodeChar_digit {letter : Char} (digit : isDigit letter = true) :
    String.utf8EncodeChar letter = [UInt8.ofNat letter.toNat] ∧
      isDigitByte (UInt8.ofNat letter.toNat) = true ∧
      digitByteValue (UInt8.ofNat letter.toNat) = digitValue letter := by
  obtain ⟨low, high⟩ := toNat_of_isDigit digit
  have number : (UInt8.ofNat letter.toNat).toNat = letter.toNat := by
    rw [UInt8.toNat_ofNat', Nat.mod_eq_of_lt (by omega)]
  refine ⟨?_, ?_, ?_⟩
  · rcases utf8EncodeChar_cases letter with ⟨-, one⟩ | ⟨large, -⟩ | ⟨large, -⟩ | ⟨large, -⟩
    · exact one
    · omega
    · omega
    · omega
  · rw [isDigitByte, Bool.and_eq_true_iff, decide_eq_true_iff, decide_eq_true_iff,
      UInt8.le_iff_toNat_le, UInt8.le_iff_toNat_le, number]
    exact ⟨by change 48 ≤ _; omega, by change _ ≤ 57; omega⟩
  · rw [digitByteValue, number, digitValue]

/-- Digits are as many bytes, which are digits of the same value. -/
theorem ofLetters_digits {letters : List Char} (digits : letters.all isDigit = true) :
    (ofLetters letters).length = letters.length ∧
      (ofLetters letters).all isDigitByte = true ∧
      ∀ total, (ofLetters letters).foldl
          (fun total digit => total * 10 + digitByteValue digit) total =
        letters.foldl (fun total digit => total * 10 + digitValue digit) total := by
  induction letters with
  | nil => exact ⟨rfl, rfl, fun _ => rfl⟩
  | cons first rest inductionHypothesis =>
      obtain ⟨digit, digitsRest⟩ := Bool.and_eq_true_iff.mp (List.all_cons ▸ digits)
      obtain ⟨encoded, isDigit, value⟩ := utf8EncodeChar_digit digit
      obtain ⟨length, all, values⟩ := inductionHypothesis digitsRest
      rw [ofLetters_cons, encoded, List.singleton_append]
      refine ⟨by rw [List.length_cons, List.length_cons, length], ?_, fun total => ?_⟩
      · rw [List.all_cons, isDigit, all]
        rfl
      · rw [List.foldl_cons, List.foldl_cons, value, values]

theorem takeWhile_digits
    {digits rest : Bytes}
    (all : digits.all isDigitByte = true)
    (ends : EndsDigits rest) :
    (digits ++ rest).takeWhile isDigitByte = digits ∧
      (digits ++ rest).dropWhile isDigitByte = rest :=
  takeWhile_run (List.all_eq_true.mp all) ends

/-! ## Gathering -/

theorem le_foldl_digits (total : Nat) (digits : Bytes) :
    total ≤ digits.foldl (fun total digit => total * 10 + digitByteValue digit) total := by
  induction digits generalizing total with
  | nil => exact Nat.le_refl total
  | cons digit rest inductionHypothesis =>
      have further := inductionHypothesis (total * 10 + digitByteValue digit)
      rw [List.foldl_cons]
      omega

/-- Digits that fit are gathered, all of them. -/
theorem gather_eq
    {digits : Bytes} {significand : Nat}
    (fits : digits.foldl (fun total digit => total * 10 + digitByteValue digit) significand <
      significandLimit) :
    gather significand digits =
      (digits.foldl (fun total digit => total * 10 + digitByteValue digit) significand, []) := by
  induction digits generalizing significand with
  | nil => rfl
  | cons digit rest inductionHypothesis =>
      rw [List.foldl_cons] at fits ⊢
      have next := (le_foldl_digits _ rest).trans_lt fits
      simp only [gather]
      rw [if_pos next, inductionHypothesis fits]

/-! ## Reading -/

/-- The digits of the whole part of a number: at least one, and no needless zero in front. -/
structure IsWhole (whole : List Char) : Prop where
  digits : whole.all isDigit = true
  nonempty : whole ≠ []
  proper : whole.head? = some '0' -> whole.length = 1
  fits : digitsValue whole < significandLimit

theorem eq_zero_of_byte
    {letter : Char}
    (digit : isDigit letter = true)
    (zero : UInt8.ofNat letter.toNat = 0x30) :
    letter = '0' := by
  have high := (toNat_of_isDigit digit).2
  have number := congrArg UInt8.toNat zero
  rw [UInt8.toNat_ofNat', Nat.mod_eq_of_lt (by omega)] at number
  exact Char.toNat_inj.mp number

/-- What a reader does with the whole part of a number depends on the byte behind it alone. -/
theorem readNumber_whole
    {whole : List Char} {rest : Bytes}
    (isWhole : IsWhole whole)
    (ends : EndsDigits rest)
    (positive : Bool) :
    readNumber positive (ofLetters whole ++ rest) =
      match rest with
      | mark :: after =>
          if mark = 0x2e then readPlaces positive (digitsValue whole) 0 after
          else if mark = 0x65 ∨ mark = 0x45 then
            readRealEnd positive (digitsValue whole) 0 rest
          else .ok (wholeNumber positive (digitsValue whole), rest)
      | [] => .ok (wholeNumber positive (digitsValue whole), rest) := by
  obtain ⟨length, all, values⟩ := ofLetters_digits isWhole.digits
  obtain ⟨taken, dropped⟩ := takeWhile_digits all ends
  have gathered : gather 0 (ofLetters whole) = (digitsValue whole, []) := by
    rw [gather_eq (by rw [values]; exact isWhole.fits), values]
    rfl
  obtain ⟨first, others, rfl⟩ := List.exists_cons_of_ne_nil isWhole.nonempty
  obtain ⟨digit, -⟩ := Bool.and_eq_true_iff.mp (List.all_cons ▸ isWhole.digits)
  obtain ⟨encoded, isDigit, -⟩ := utf8EncodeChar_digit digit
  have bytes : ofLetters (first :: others) = UInt8.ofNat first.toNat :: ofLetters others := by
    rw [ofLetters_cons, encoded, List.singleton_append]
  have noZero : ¬ (UInt8.ofNat first.toNat = 0x30 ∧
      1 < (ofLetters (first :: others)).length) := by
    rintro ⟨zero, long⟩
    obtain rfl := eq_zero_of_byte digit zero
    have single := isWhole.proper rfl
    omega
  rw [bytes] at taken dropped gathered noZero ⊢
  rw [List.cons_append] at taken dropped ⊢
  simp only [readNumber, isDigit, if_true, taken, dropped, if_neg noZero, gathered]
  cases rest with
  | nil => simp
  | cons mark after => simp

/-- A whole number is read to its end. -/
theorem readNumber_of_endsNumber
    {whole : List Char} {rest : Bytes}
    (isWhole : IsWhole whole)
    (ends : EndsNumber rest)
    (positive : Bool) :
    readNumber positive (ofLetters whole ++ rest) =
      .ok (wholeNumber positive (digitsValue whole), rest) := by
  rw [readNumber_whole isWhole ends.endsDigits]
  cases rest with
  | nil => rfl
  | cons mark after =>
      obtain ⟨-, noPoint, noMark, noCapital⟩ := ends mark rfl
      dsimp only
      rw [if_neg noPoint, if_neg (by simp [noMark, noCapital])]

/-- The digits behind a point are gathered with those before it. -/
theorem readPlaces_digits
    {places : List Char} {rest : Bytes} {significand : Nat}
    (digits : places.all isDigit = true)
    (nonempty : places ≠ [])
    (fits : significand * 10 ^ places.length + digitsValue places < significandLimit)
    (ends : EndsDigits rest)
    (positive : Bool) :
    readPlaces positive significand 0 (ofLetters places ++ rest) =
      readRealEnd positive (significand * 10 ^ places.length + digitsValue places)
        (-(places.length : Int)) rest := by
  obtain ⟨length, all, values⟩ := ofLetters_digits digits
  obtain ⟨taken, dropped⟩ := takeWhile_digits all ends
  have total := (values significand).trans (foldl_digits_eq places significand)
  have gathered := gather_eq (show (ofLetters places).foldl _ significand < _ from total ▸ fits)
  rw [total] at gathered
  obtain ⟨first, others, rfl⟩ := List.exists_cons_of_ne_nil nonempty
  obtain ⟨digit, -⟩ := Bool.and_eq_true_iff.mp (List.all_cons ▸ digits)
  obtain ⟨encoded, isDigit, -⟩ := utf8EncodeChar_digit digit
  have bytes : ofLetters (first :: others) = UInt8.ofNat first.toNat :: ofLetters others := by
    rw [ofLetters_cons, encoded, List.singleton_append]
  rw [bytes] at taken dropped gathered length ⊢
  rw [List.cons_append] at taken dropped ⊢
  simp only [readPlaces, isDigit, if_true, taken, dropped, gathered, length, List.length_nil,
    Nat.sub_zero, Int.zero_sub]

/-- The result of reading a real number whose parts are known. -/
def finishReal (positive : Bool) (significand : Nat) (exponent : Int) (rest : Bytes) :
    Result Number :=
  match realOfParts positive significand exponent with
  | .error fault => .error fault
  | .ok value => .ok (.real value, rest)

theorem readRealEnd_of_endsNumber
    {rest : Bytes}
    (ends : EndsNumber rest)
    (positive : Bool)
    (significand : Nat)
    (exponent : Int) :
    readRealEnd positive significand exponent rest =
      finishReal positive significand exponent rest := by
  unfold readRealEnd finishReal
  cases rest with
  | nil => rfl
  | cons mark after =>
      obtain ⟨-, -, noMark, noCapital⟩ := ends mark rfl
      exact (if_neg (by simp [noMark, noCapital])).trans rfl

/-- An exponent with its sign is read to its end. -/
theorem readRealEnd_exponent
    {digits : List Char} {rest : Bytes}
    (all : digits.all isDigit = true)
    (nonempty : digits ≠ [])
    (small : digitsValue digits < exponentLimit)
    (ends : EndsDigits rest)
    (up positive : Bool)
    (significand : Nat)
    (start : Int) :
    readRealEnd positive significand start
        (0x65 :: (if up then 0x2b else 0x2d) :: (ofLetters digits ++ rest)) =
      finishReal positive significand
        (if up then start + digitsValue digits else start - digitsValue digits) rest := by
  obtain ⟨-, allBytes, values⟩ := ofLetters_digits all
  obtain ⟨taken, dropped⟩ := takeWhile_digits allBytes ends
  have value : digitBytesValue (ofLetters digits) = digitsValue digits := values 0
  obtain ⟨first, others, rfl⟩ := List.exists_cons_of_ne_nil nonempty
  obtain ⟨digit, -⟩ := Bool.and_eq_true_iff.mp (List.all_cons ▸ all)
  obtain ⟨encoded, isDigit, -⟩ := utf8EncodeChar_digit digit
  have bytes : ofLetters (first :: others) = UInt8.ofNat first.toNat :: ofLetters others := by
    rw [ofLetters_cons, encoded, List.singleton_append]
  rw [bytes] at taken dropped value ⊢
  rw [List.cons_append] at taken dropped ⊢
  have few : ¬ exponentLimit ≤ digitsValue (first :: others) := Nat.not_le.mpr small
  cases up with
  | true =>
      cases read : realOfParts positive significand (start + digitsValue (first :: others)) <;>
        simp [readRealEnd, readExponentPart, isDigit, taken, dropped, value, few, finishReal, read]
  | false =>
      cases read : realOfParts positive significand (start - digitsValue (first :: others)) <;>
        simp [readRealEnd, readExponentPart, isDigit, taken, dropped, value, few, finishReal, read]

/-! ## Whole texts -/

theorem ofLetters_ascii
    {letter : Char}
    {byte : UInt8}
    (encoded : String.utf8EncodeChar letter = [byte])
    (rest : List Char) :
    ofLetters (letter :: rest) = byte :: ofLetters rest := by
  rw [ofLetters_cons, encoded, List.singleton_append]

theorem ofLetters_point (rest : List Char) : ofLetters ('.' :: rest) = 0x2e :: ofLetters rest :=
  ofLetters_ascii (by decide) rest

theorem ofLetters_exponent (up : Bool) (digits : List Char) :
    ofLetters ('e' :: (if up then '+' else '-') :: digits) =
      0x65 :: (if up then 0x2b else 0x2d) :: ofLetters digits := by
  cases up
  · exact (ofLetters_ascii (by decide) _).trans
      (congrArg _ (ofLetters_ascii (by decide) digits))
  · exact (ofLetters_ascii (by decide) _).trans
      (congrArg _ (ofLetters_ascii (by decide) digits))

/-- A number with a point. -/
theorem readNumber_point
    {whole places : List Char} {rest : Bytes}
    (isWhole : IsWhole whole)
    (digits : places.all isDigit = true)
    (nonempty : places ≠ [])
    (fits : digitsValue (whole ++ places) < significandLimit)
    (ends : EndsDigits rest)
    (positive : Bool) :
    readNumber positive (ofLetters (whole ++ '.' :: places) ++ rest) =
      readRealEnd positive (digitsValue (whole ++ places)) (-(places.length : Int)) rest := by
  rw [digitsValue_append] at fits ⊢
  rw [ofLetters_append, ofLetters_point, List.append_assoc, List.cons_append,
    readNumber_whole isWhole (endsDigits_cons (by decide) _)]
  dsimp only
  rw [if_pos rfl, readPlaces_digits digits nonempty fits ends]

/-- A number with an exponent and no point. -/
theorem readNumber_exponent
    {whole digits : List Char} {rest : Bytes}
    (isWhole : IsWhole whole)
    (all : digits.all isDigit = true)
    (nonempty : digits ≠ [])
    (small : digitsValue digits < exponentLimit)
    (ends : EndsDigits rest)
    (up positive : Bool) :
    readNumber positive
        (ofLetters (whole ++ 'e' :: (if up then '+' else '-') :: digits) ++ rest) =
      finishReal positive (digitsValue whole)
        (if up then 0 + digitsValue digits else 0 - digitsValue digits) rest := by
  rw [ofLetters_append, ofLetters_exponent, List.append_assoc, List.cons_append,
    List.cons_append, readNumber_whole isWhole (endsDigits_cons (by decide) _)]
  dsimp only
  rw [if_neg (by decide), if_pos (Or.inl rfl), readRealEnd_exponent all nonempty small ends]

/-- A number with a point and an exponent. -/
theorem readNumber_point_exponent
    {whole places digits : List Char} {rest : Bytes}
    (isWhole : IsWhole whole)
    (placesDigits : places.all isDigit = true)
    (somePlaces : places ≠ [])
    (fits : digitsValue (whole ++ places) < significandLimit)
    (all : digits.all isDigit = true)
    (nonempty : digits ≠ [])
    (small : digitsValue digits < exponentLimit)
    (ends : EndsDigits rest)
    (up positive : Bool) :
    readNumber positive
        (ofLetters (whole ++ '.' :: places ++ 'e' :: (if up then '+' else '-') :: digits) ++
          rest) =
      finishReal positive (digitsValue (whole ++ places))
        (if up then -(places.length : Int) + digitsValue digits
          else -(places.length : Int) - digitsValue digits) rest := by
  rw [ofLetters_append, ofLetters_exponent, List.append_assoc, List.cons_append,
    List.cons_append, readNumber_point isWhole placesDigits somePlaces fits
      (endsDigits_cons (by decide) _), readRealEnd_exponent all nonempty small ends]

end Json
end Telemetry
