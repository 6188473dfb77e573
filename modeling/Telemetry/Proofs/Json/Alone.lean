import Telemetry.Proofs.Json.Extent

/-!
# A value is read the same alone

What a reader makes of a value, be it a result or a refusal, does not depend on
what follows the value, as long as that is nothing, a comma or a closing sign.
So a value can be taken out of an array or object and read alone.
-/

namespace Telemetry
namespace Json

/-- The bytes of a value end where a comma, a closing sign or nothing follows, maybe behind
blanks. -/
def endsEntry (rest : Bytes) : Bool :=
  match skipSpace rest with
  | [] => true
  | byte :: _ => byte == 0x2c || byte == 0x5d || byte == 0x7d

/-- Bytes that are skipped as one value, with the bytes behind it. -/
structure IsValue (value rest : Bytes) : Prop where
  skipped : skipValue (value ++ rest) = .ok rest
  ends : endsEntry rest = true

/-- A result with further bytes behind those that were left. -/
def leaving (result : Result α) (rest : Bytes) : Result α :=
  result.map fun (value, left) => (value, left ++ rest)

/-- A reader makes the same of a value, whatever follows it. -/
def ReadsAlone (read : Reader α) : Prop :=
  ∀ value rest, IsValue value rest -> read (value ++ rest) = leaving (read value) rest

/-! ## Blanks and words -/

theorem skipSpace_append (front rest : Bytes) :
    skipSpace (front ++ rest) =
      match skipSpace front with
      | [] => skipSpace rest
      | byte :: behind => byte :: (behind ++ rest) := by
  induction front with
  | nil => rfl
  | cons byte others inductionHypothesis =>
      cases blank : isSpace byte with
      | true => simpa [skipSpace, blank] using inductionHypothesis
      | false => simp [skipSpace, blank]

/-- What ends an entry does not go on with a number. -/
theorem endsNumber_of_endsEntry
    {rest : Bytes}
    (ends : endsEntry rest = true) :
    EndsNumber rest := by
  cases rest with
  | nil => exact endsNumber_nil
  | cons byte others =>
      cases blank : isSpace byte with
      | true =>
          rintro _ ⟨⟩
          simp only [isSpace, Bool.or_eq_true, beq_iff_eq] at blank
          rcases blank with ((rfl | rfl) | rfl) | rfl <;> decide
      | false =>
          refine endsNumber_sign ?_ others
          rw [endsEntry, skipSpace_cons blank] at ends
          simpa [or_assoc] using ends

theorem length_of_readWord
    {word : List Char} {input rest : Bytes}
    (read : readWord word input = .ok rest) :
    input.length = word.length + rest.length := by
  fun_induction readWord word input with
  | case1 => cases read; simp
  | case2 => cases read
  | case3 letter word byte after same inductionHypothesis =>
      have behind := inductionHypothesis read
      simp only [List.length_cons]
      omega
  | case4 => cases read

/-- A word in front of other bytes is read alone. -/
theorem readWord_alone
    {word : List Char} {front rest : Bytes}
    (read : readWord word (front ++ rest) = .ok rest) :
    readWord word front = .ok [] := by
  induction word generalizing front with
  | nil =>
      have length := congrArg List.length (Except.ok.inj read)
      rw [List.length_append] at length
      rw [List.length_eq_zero_iff.mp (by omega : front.length = 0)]
      rfl
  | cons letter word inductionHypothesis =>
      cases front with
      | nil =>
          have length := length_of_readWord read
          simp only [List.nil_append, List.length_cons] at length
          omega
      | cons byte others =>
          rw [List.cons_append, readWord] at read
          split at read
          next same =>
            rw [readWord, if_pos same]
            exact inductionHypothesis read
          next => cases read

/-! ## Numbers -/

/-- Digits that nothing goes on with end where they end alone. -/
theorem digits_append
    {rest : Bytes}
    (ends : EndsDigits rest)
    (front : Bytes) :
    (front ++ rest).takeWhile isDigitByte = front.takeWhile isDigitByte ∧
      (front ++ rest).dropWhile isDigitByte = front.dropWhile isDigitByte ++ rest := by
  induction front with
  | nil =>
      cases rest with
      | nil => exact ⟨rfl, rfl⟩
      | cons byte others =>
          have other := ends byte rfl
          simp [other]
  | cons byte others inductionHypothesis =>
      cases digit : isDigitByte byte with
      | true => simpa [digit] using inductionHypothesis
      | false => simp [digit]

/-- Digits that are skipped do not belong to what ends a number. -/
theorem exists_digit_of_skipSomeDigits
    {front rest after : Bytes}
    (ends : EndsDigits rest)
    (skipped : skipSomeDigits (front ++ rest) = .ok after) :
    (∃ digit others, front = digit :: others ∧ isDigitByte digit = true) ∧
      after = front.dropWhile isDigitByte ++ rest := by
  have behind := (digits_append ends front).2
  unfold skipSomeDigits at skipped
  cases front with
  | nil =>
      cases rest with
      | nil => cases skipped
      | cons byte others =>
          have other := ends byte rfl
          simp [other] at skipped
  | cons digit others =>
      rw [List.cons_append] at skipped behind
      dsimp only at skipped
      split at skipped
      next isDigit =>
        cases skipped
        exact ⟨⟨digit, others, rfl, isDigit⟩, behind⟩
      next => cases skipped

theorem length_of_skipSomeDigits
    {input rest : Bytes}
    (skipped : skipSomeDigits input = .ok rest) :
    rest.length < input.length := by
  unfold skipSomeDigits at skipped
  split at skipped
  next first others =>
    split at skipped
    next digit =>
      cases skipped
      rw [skipDigits, List.dropWhile_cons_of_pos digit]
      exact Nat.lt_succ_of_le (List.dropWhile_sublist _).length_le
    next => cases skipped
  next => cases skipped

/-- Finishes a number by the digits of its exponent, which goes up or down. -/
def finishExponent (positive : Bool) (significand : Nat) (start : Int) (up : Bool)
    (digits : Bytes) : Result Number :=
  match digits with
  | [] => .error .endOfValue
  | first :: _ =>
      if isDigitByte first then
        let written := digitBytesValue (digits.takeWhile isDigitByte)
        let rest := digits.dropWhile isDigitByte
        if exponentLimit ≤ written then
          if significand ≠ 0 ∧ up then .error .numberOutOfRange
          else .ok (.real (Binary64.zero !positive), rest)
        else
          finishReal positive significand (if up then start + written else start - written) rest
      else .error .invalidNumber

theorem readExponentPart_cons
    (positive : Bool) (significand : Nat) (start : Int) (sign : UInt8) (rest : Bytes) :
    readExponentPart positive significand start (sign :: rest) =
      if sign = 0x2b then finishExponent positive significand start true rest
      else if sign = 0x2d then finishExponent positive significand start false rest
      else finishExponent positive significand start true (sign :: rest) := by
  unfold readExponentPart
  dsimp only
  by_cases plus : sign = 0x2b
  · rw [if_pos plus, if_pos plus]
    rfl
  · rw [if_neg plus, if_neg plus]
    by_cases minus : sign = 0x2d
    · rw [if_pos minus, if_pos minus]
      rfl
    · rw [if_neg minus, if_neg minus]
      rfl

theorem finishReal_append
    (positive : Bool) (significand : Nat) (exponent : Int) (front rest : Bytes) :
    finishReal positive significand exponent (front ++ rest) =
      leaving (finishReal positive significand exponent front) rest := by
  unfold finishReal leaving
  cases realOfParts positive significand exponent <;> rfl

theorem finishExponent_append
    {front rest : Bytes}
    (ends : EndsNumber rest)
    (skipped : skipSomeDigits (front ++ rest) = .ok rest)
    (positive : Bool) (significand : Nat) (start : Int) (up : Bool) :
    finishExponent positive significand start up (front ++ rest) =
      leaving (finishExponent positive significand start up front) rest := by
  obtain ⟨⟨digit, others, rfl, isDigit⟩, -⟩ :=
    exists_digit_of_skipSomeDigits ends.endsDigits skipped
  obtain ⟨taken, dropped⟩ := digits_append ends.endsDigits (digit :: others)
  unfold finishExponent
  rw [List.cons_append] at taken dropped ⊢
  dsimp only
  rw [if_pos isDigit, if_pos isDigit, taken, dropped]
  split
  · split <;> rfl
  · exact finishReal_append ..

/-- The exponent of a number is read alone. -/
theorem readExponentPart_append
    {front rest : Bytes} {mark : UInt8}
    (isMark : mark = 0x65 ∨ mark = 0x45)
    (ends : EndsNumber rest)
    (skipped : skipExponent (mark :: (front ++ rest)) = .ok rest)
    (positive : Bool) (significand : Nat) (start : Int) :
    readExponentPart positive significand start (front ++ rest) =
      leaving (readExponentPart positive significand start front) rest := by
  unfold skipExponent at skipped
  dsimp only at skipped
  rw [if_pos isMark] at skipped
  cases front with
  | nil =>
      -- What is skipped behind the mark would have to be shorter than itself.
      exfalso
      rw [List.nil_append] at skipped
      split at skipped
      next sign after =>
        split at skipped
        · exact absurd (length_of_skipSomeDigits skipped) (by simp)
        · exact absurd (length_of_skipSomeDigits skipped) (Nat.lt_irrefl _)
      next => cases skipped
  | cons sign others =>
      rw [List.cons_append] at skipped ⊢
      dsimp only at skipped
      rw [readExponentPart_cons, readExponentPart_cons]
      by_cases plus : sign = 0x2b
      · rw [if_pos (Or.inl plus)] at skipped
        rw [if_pos plus, if_pos plus]
        exact finishExponent_append ends skipped positive significand start true
      · rw [if_neg plus, if_neg plus]
        by_cases minus : sign = 0x2d
        · rw [if_pos (Or.inr minus)] at skipped
          rw [if_pos minus, if_pos minus]
          exact finishExponent_append ends skipped positive significand start false
        · rw [if_neg (not_or.mpr ⟨plus, minus⟩)] at skipped
          rw [if_neg minus, if_neg minus]
          exact @finishExponent_append (sign :: others) rest ends skipped positive significand
            start true

/-- A number that is not whole is finished alone. -/
theorem readRealEnd_append
    {front rest : Bytes}
    (ends : EndsNumber rest)
    (skipped : skipExponent (front ++ rest) = .ok rest)
    (positive : Bool) (significand : Nat) (exponent : Int) :
    readRealEnd positive significand exponent (front ++ rest) =
      leaving (readRealEnd positive significand exponent front) rest := by
  cases front with
  | nil =>
      rw [List.nil_append, readRealEnd_of_endsNumber ends,
        readRealEnd_of_endsNumber endsNumber_nil]
      exact finishReal_append positive significand exponent [] rest
  | cons mark others =>
      unfold readRealEnd
      rw [List.cons_append] at skipped ⊢
      dsimp only
      split
      next isMark => exact readExponentPart_append isMark ends skipped positive significand exponent
      next => exact finishReal_append positive significand exponent (mark :: others) rest

/-- The places of a number are read alone. -/
theorem readPlaces_append
    {front rest after : Bytes}
    (ends : EndsNumber rest)
    (digits : skipSomeDigits (front ++ rest) = .ok after)
    (skipped : skipExponent after = .ok rest)
    (positive : Bool) (significand : Nat) (start : Int) :
    readPlaces positive significand start (front ++ rest) =
      leaving (readPlaces positive significand start front) rest := by
  obtain ⟨⟨digit, others, rfl, isDigit⟩, rfl⟩ :=
    exists_digit_of_skipSomeDigits ends.endsDigits digits
  obtain ⟨taken, dropped⟩ := digits_append ends.endsDigits (digit :: others)
  unfold readPlaces
  rw [List.cons_append] at taken dropped ⊢
  dsimp only
  rw [if_pos isDigit, if_pos isDigit, taken, dropped]
  exact readRealEnd_append ends skipped positive _ _

/-- What is not refused is what is done otherwise. -/
theorem eq_ok_of_ite_error
    {condition : Prop} [Decidable condition] {fault : Fault} {other : Except Fault α} {value : α}
    (done : (if condition then .error fault else other) = .ok value) :
    other = .ok value := by
  split at done
  · cases done
  · exact done

/-- A number that is skipped begins with digits, and its places and its exponent have some. -/
theorem skipNumber_cons_eq_ok
    {first : UInt8} {others rest : Bytes}
    (skipped : skipNumber (first :: others) = .ok rest) :
    isDigitByte first = true ∧
      match (first :: others).dropWhile isDigitByte with
      | [] => rest = []
      | mark :: after =>
          if mark = 0x2e then
            ∃ afterPlaces, skipSomeDigits after = .ok afterPlaces ∧
              skipExponent afterPlaces = .ok rest
          else skipExponent (mark :: after) = .ok rest := by
  unfold skipNumber skipDigits at skipped
  dsimp only at skipped
  by_cases digit : isDigitByte first = true
  · refine ⟨digit, ?_⟩
    rw [if_pos digit] at skipped
    replace skipped := eq_ok_of_ite_error skipped
    split at skipped
    next mark after behind =>
      rw [behind]
      dsimp only
      split at skipped
      next point =>
        rw [if_pos point]
        split at skipped
        next => cases skipped
        next afterPlaces digits => exact ⟨afterPlaces, digits, skipped⟩
      next noPoint =>
        rw [if_neg noPoint]
        exact skipped
    next behind =>
      rw [behind]
      cases skipped
      rfl
  · rw [if_neg digit] at skipped
    cases skipped

/-- A number is read alone. -/
theorem readNumber_append
    {front rest : Bytes}
    (ends : EndsNumber rest)
    (skipped : skipNumber (front ++ rest) = .ok rest)
    (positive : Bool) :
    readNumber positive (front ++ rest) = leaving (readNumber positive front) rest := by
  cases front with
  | nil =>
      exfalso
      cases rest with
      | nil => cases skipped
      | cons first others =>
          have digit := (skipNumber_cons_eq_ok skipped).1
          rw [(ends first rfl).1] at digit
          cases digit
  | cons first others =>
      obtain ⟨taken, dropped⟩ := digits_append ends.endsDigits (first :: others)
      rw [List.cons_append] at taken dropped skipped ⊢
      obtain ⟨digit, behind⟩ := skipNumber_cons_eq_ok skipped
      unfold readNumber
      dsimp only
      rw [dropped] at behind
      rw [if_pos digit, if_pos digit, taken, dropped]
      split
      next => rfl
      next proper =>
        generalize gather 0 ((first :: others).takeWhile isDigitByte) = gathered
        obtain ⟨significand, left⟩ := gathered
        cases after : (first :: others).dropWhile isDigitByte with
        | nil =>
            -- Only the digits that were left over tell whether the number is whole.
            rw [List.nil_append]
            dsimp only
            rw [readRealEnd_of_endsNumber endsNumber_nil]
            cases rest with
            | nil =>
                dsimp only
                rw [readRealEnd_of_endsNumber endsNumber_nil]
                split
                · exact finishReal_append positive significand left.length [] []
                · rfl
            | cons mark others =>
                obtain ⟨-, noPoint, noMark, noCapital⟩ := ends mark rfl
                dsimp only
                rw [if_neg noPoint, readRealEnd_of_endsNumber ends]
                by_cases whole : left = []
                · rw [if_neg (by simp [noMark, noCapital, whole]), if_neg (by simp [whole])]
                  rfl
                · rw [if_pos (by simp [whole]), if_pos whole]
                  exact finishReal_append positive significand left.length [] (mark :: others)
        | cons mark places =>
            rw [after, List.cons_append] at behind
            rw [List.cons_append]
            dsimp only at behind ⊢
            by_cases point : mark = 0x2e
            · rw [if_pos point] at behind
              rw [if_pos point, if_pos point]
              obtain ⟨afterPlaces, digits, exponent⟩ := behind
              exact readPlaces_append ends digits exponent positive significand left.length
            · rw [if_neg point] at behind
              rw [if_neg point, if_neg point]
              split
              next =>
                exact @readRealEnd_append (mark :: places) rest ends behind positive
                  significand left.length
              next => rfl

/-! ## Texts -/

theorem length_of_skipText
    {input rest : Bytes}
    (skipped : skipText input = .ok rest) :
    rest.length < input.length := by
  fun_induction skipText input with
  | case1 => cases skipped
  | case2 => cases skipped; simp
  | case3 => cases skipped
  | case4 others after escape _ inductionHypothesis =>
      have shorter := length_of_skipEscape escape
      have further := inductionHypothesis skipped
      simp only [List.length_cons]
      omega
  | case5 => cases skipped
  | case6 byte others _ _ _ inductionHypothesis =>
      have further := inductionHypothesis skipped
      simp only [List.length_cons]
      omega

/-- Something of a text stands before what is behind it. -/
theorem ne_nil_of_skipText
    {front rest : Bytes}
    (skipped : skipText (front ++ rest) = .ok rest) :
    front ≠ [] := by
  rintro rfl
  exact Nat.lt_irrefl _ (length_of_skipText skipped)

/-- An escape that a text goes on with is skipped. -/
theorem exists_skipEscape
    {input rest : Bytes}
    (skipped : skipText (0x5c :: input) = .ok rest) :
    ∃ after, skipEscape input = .ok after ∧ skipText after = .ok rest := by
  rw [skipText, if_neg (by decide), if_pos rfl] at skipped
  split at skipped
  next => cases skipped
  next after escape => exact ⟨after, escape, skipped⟩

/-- The number of an escape depends on its four digits alone. -/
theorem exists_of_readFourHex
    {input rest : Bytes} {value : Nat}
    (read : readFourHex input = .ok (value, rest)) :
    ∃ digits : Bytes, input = digits ++ rest ∧
      ∀ others, readFourHex (digits ++ others) = .ok (value, others) := by
  unfold readFourHex at read
  split at read
  next first second third fourth behind =>
    split at read
    next a b c d isFirst isSecond isThird isFourth =>
      cases read
      refine ⟨[first, second, third, fourth], rfl, fun others => ?_⟩
      simp [readFourHex, isFirst, isSecond, isThird, isFourth]
    next => cases read
  next => cases read

/-- The digits of an escape by number stand before what is behind the text. -/
theorem readFourHex_append
    {front rest : Bytes}
    (skipped : skipText (0x5c :: 0x75 :: (front ++ rest)) = .ok rest) :
    ∃ value behind, readFourHex front = .ok (value, behind) ∧
      readFourHex (front ++ rest) = .ok (value, behind ++ rest) ∧
      skipText (behind ++ rest) = .ok rest := by
  have notLetter : letterEscape? 0x75 = none := by decide
  obtain ⟨after, escape, further⟩ := exists_skipEscape skipped
  rw [skipEscape, notLetter] at escape
  dsimp only at escape
  rw [if_pos rfl] at escape
  split at escape
  next => cases escape
  next value beyond hex =>
    cases escape
    obtain ⟨digits, split, reads⟩ := exists_of_readFourHex hex
    rcases List.append_eq_append_iff.mp split with ⟨spare, -, rfl⟩ | ⟨behind, rfl, rfl⟩
    · -- The rest of the text is longer than what is behind the text.
      have longer := length_of_skipText further
      simp at longer
    · refine ⟨value, behind, reads behind, ?_, further⟩
      rw [List.append_assoc]
      exact reads (behind ++ rest)

/-- The second half of a pair of surrogates is read alone. -/
theorem readLowSurrogate_append
    {front rest : Bytes}
    (skipped : skipText (front ++ rest) = .ok rest)
    (first : Nat) :
    readLowSurrogate first (front ++ rest) = leaving (readLowSurrogate first front) rest := by
  match front with
  | [] => exact absurd rfl (ne_nil_of_skipText skipped)
  | [mark] =>
      have noEscape : mark ≠ 0x5c := by
        rintro rfl
        obtain ⟨after, escape, further⟩ := exists_skipEscape skipped
        have shorter : after.length < rest.length := length_of_skipEscape escape
        have longer := length_of_skipText further
        omega
      rw [readLowSurrogate, if_neg noEscape]
      cases rest with
      | nil =>
          rw [List.append_nil, readLowSurrogate, if_neg noEscape]
          rfl
      | cons kind others =>
          rw [List.cons_append, List.nil_append, readLowSurrogate, if_pos noEscape]
          rfl
  | mark :: kind :: behind =>
      rw [List.cons_append, List.cons_append, readLowSurrogate, readLowSurrogate]
      split
      next => rfl
      next isMark =>
        split
        next => rfl
        next isKind =>
          obtain rfl := Classical.not_not.mp isMark
          obtain rfl := Classical.not_not.mp isKind
          obtain ⟨second, left, alone, together, -⟩ := readFourHex_append skipped
          rw [alone, together]
          dsimp only
          split <;> rfl

/-- An escape is read alone. -/
theorem readEscape_append
    {front rest : Bytes}
    (skipped : skipText (0x5c :: (front ++ rest)) = .ok rest) :
    readEscape (front ++ rest) = leaving (readEscape front) rest := by
  cases front with
  | nil =>
      exfalso
      obtain ⟨after, escape, further⟩ := exists_skipEscape skipped
      have shorter := length_of_skipEscape escape
      have longer := length_of_skipText further
      rw [List.nil_append] at shorter
      omega
  | cons kind others =>
      rw [List.cons_append, readEscape, readEscape]
      cases letterEscape? kind with
      | some byte => rfl
      | none =>
          dsimp only
          split
          next isPoint =>
            subst isPoint
            obtain ⟨point, left, alone, together, further⟩ := readFourHex_append skipped
            unfold readPointEscape
            rw [alone, together]
            dsimp only
            split
            next => rfl
            next =>
              split
              next => exact readLowSurrogate_append further point
              next => rfl
          next => rfl

/-- A text is read alone. -/
theorem readTextBytes_append
    {front rest : Bytes}
    (skipped : skipText (front ++ rest) = .ok rest)
    (done : Bytes) :
    readTextBytes done (front ++ rest) = leaving (readTextBytes done front) rest := by
  fun_induction readTextBytes done front with
  | case1 => exact absurd rfl (ne_nil_of_skipText skipped)
  | case2 done others =>
      rw [List.cons_append, readTextBytes, if_pos rfl]
      rfl
  | case3 done others fault escape =>
      have together := readEscape_append skipped
      rw [escape] at together
      rw [List.cons_append, readTextBytes, if_neg (by decide), if_pos rfl]
      split
      next other failed => rw [together] at failed; cases failed; rfl
      next piece after taken => rw [together] at taken; cases taken
  | case4 done others piece after escape _ inductionHypothesis =>
      have together := readEscape_append skipped
      rw [escape] at together
      have further : skipText (after ++ rest) = .ok rest :=
        (skipText_of_readEscape together).symm.trans skipped
      rw [List.cons_append, readTextBytes, if_neg (by decide), if_pos rfl]
      split
      next other failed => rw [together] at failed; cases failed
      next found behind taken =>
        rw [together] at taken
        cases taken
        exact inductionHypothesis further
  | case5 done byte others notQuote notBackslash control =>
      rw [List.cons_append, readTextBytes, if_neg notQuote, if_neg notBackslash, if_pos control]
      rfl
  | case6 done byte others notQuote notBackslash noControl inductionHypothesis =>
      rw [List.cons_append, skipText, if_neg notQuote, if_neg notBackslash, if_neg noControl]
        at skipped
      rw [List.cons_append, readTextBytes, if_neg notQuote, if_neg notBackslash,
        if_neg noControl]
      exact inductionHypothesis skipped

theorem readText_append
    {front rest : Bytes}
    (skipped : skipText (front ++ rest) = .ok rest) :
    readText (front ++ rest) = leaving (readText front) rest := by
  unfold readText
  rw [readTextBytes_append skipped]
  cases readTextBytes [] front with
  | error fault => rfl
  | ok result =>
      obtain ⟨bytes, left⟩ := result
      dsimp only [leaving, Except.map]
      cases Bytes.text? bytes <;> rfl

/-! ## Values -/

/-- How a value begins, what its first byte decides, and where it is skipped to. -/
inductive Begins (rest : Bytes) : UInt8 -> Bytes -> Prop
  | null {front : Bytes} (word : readWord ['u', 'l', 'l'] (front ++ rest) = .ok rest) :
      Begins rest 0x6e front
  | true {front : Bytes} (word : readWord ['r', 'u', 'e'] (front ++ rest) = .ok rest) :
      Begins rest 0x74 front
  | false {front : Bytes} (word : readWord ['a', 'l', 's', 'e'] (front ++ rest) = .ok rest) :
      Begins rest 0x66 front
  | minus {front : Bytes} (number : skipNumber (front ++ rest) = .ok rest) :
      Begins rest 0x2d front
  | digit {byte : UInt8} {front : Bytes} (digit : isDigitByte byte = true)
      (number : skipNumber (byte :: front ++ rest) = .ok rest) :
      Begins rest byte front
  | text {front : Bytes} (text : skipText (front ++ rest) = .ok rest) :
      Begins rest 0x22 front
  | list {front : Bytes} : Begins rest 0x5b front
  | object {front : Bytes} : Begins rest 0x7b front

theorem skipSteps_after (fuel input : Bytes) : skipSteps fuel (.after []) input = .ok input := by
  cases fuel <;> rfl

theorem exists_skipValueStart
    {input rest : Bytes}
    (skipped : skipValue input = .ok rest) :
    ∃ next after, skipValueStart [] input = .ok (next, after) ∧
      skipSteps input next after = .ok rest := by
  rw [skipValue, skipSteps] at skipped
  · dsimp only [skipStep] at skipped
    split at skipped
    next => cases skipped
    next next after started => exact ⟨next, after, started, skipped⟩
  · intro same
    cases same

/-- What can be skipped from a byte on that is no blank begins a value. -/
theorem begins_of_skipValue
    {input front rest : Bytes} {byte : UInt8}
    (start : skipSpace input = byte :: (front ++ rest))
    (skipped : skipValue input = .ok rest) :
    Begins rest byte front := by
  obtain ⟨next, after, started, finished⟩ := exists_skipValueStart skipped
  have scalar {result : Except Fault Bytes}
      (isScalar : afterScalar [] result = .ok (next, after)) : result = .ok rest := by
    cases result with
    | error fault => cases isScalar
    | ok behind =>
        cases isScalar
        rw [skipSteps_after] at finished
        exact finished
  unfold skipValueStart at started
  rw [start] at started
  dsimp only at started
  split at started
  next same =>
    subst same
    exact .null (scalar started)
  split at started
  next same =>
    subst same
    exact .true (scalar started)
  split at started
  next same =>
    subst same
    exact .false (scalar started)
  split at started
  next same =>
    subst same
    exact .minus (scalar started)
  split at started
  next digit => exact .digit digit (scalar started)
  split at started
  next same =>
    subst same
    exact .text (scalar started)
  split at started
  next same =>
    subst same
    exact .list
  split at started
  next same =>
    subst same
    exact .object
  next => cases started

/-- A value begins behind its blanks. -/
theorem IsValue.begins
    {value rest : Bytes}
    (isValue : IsValue value rest) :
    ∃ byte front, skipSpace value = byte :: front ∧
      skipSpace (value ++ rest) = byte :: (front ++ rest) ∧ Begins rest byte front := by
  have together := skipSpace_append value rest
  cases start : skipSpace value with
  | nil =>
      -- What ends an entry does not begin a value.
      exfalso
      rw [start] at together
      obtain ⟨next, after, started, -⟩ := exists_skipValueStart isValue.skipped
      have ends := isValue.ends
      unfold endsEntry at ends
      unfold skipValueStart at started
      rw [together] at started
      dsimp only at started
      cases behind : skipSpace rest with
      | nil => rw [behind] at started; cases started
      | cons byte others =>
          rw [behind] at ends started
          simp only [Bool.or_eq_true, beq_iff_eq] at ends
          rcases ends with (rfl | rfl) | rfl <;> simp [isDigitByte] at started
  | cons byte front =>
      rw [start] at together
      exact ⟨byte, front, rfl, together, begins_of_skipValue together isValue.skipped⟩

/-- A value of the wrong type is refused alone. -/
theorem refuseType_append
    {rest front : Bytes} {byte : UInt8}
    (begins : Begins rest byte front)
    (ends : EndsNumber rest)
    (expected : String) :
    refuseType α expected byte (front ++ rest) = refuseType α expected byte front := by
  unfold refuseType
  dsimp only
  cases begins with
  | null word => simp [word, readWord_alone word]
  | true word => simp [word, readWord_alone word]
  | false word => simp [word, readWord_alone word]
  | minus skipped =>
      rw [readNumber_append ends skipped]
      cases readNumber false front <;> rfl
  | digit digit skipped =>
      have other {letter : UInt8} (noDigit : isDigitByte letter = false) : ¬byte = letter := by
        rintro rfl
        rw [digit] at noDigit
        cases noDigit
      simp only [other (show isDigitByte 0x6e = false by decide),
        other (show isDigitByte 0x74 = false by decide),
        other (show isDigitByte 0x66 = false by decide),
        other (show isDigitByte 0x2d = false by decide), digit, if_false, if_true]
      rw [← List.cons_append, readNumber_append ends skipped]
      cases readNumber true (byte :: front) <;> rfl
  | text skipped =>
      rw [readText_append skipped]
      cases readText front <;> rfl
  | list => rfl
  | object => rfl

/-! ## Readers -/

/-- What a refusal leaves does not matter. -/
theorem leaving_refuseType (expected : String) (byte : UInt8) (front rest : Bytes) :
    leaving (refuseType α expected byte front) rest = refuseType α expected byte front := by
  cases refused : refuseType α expected byte front with
  | error fault => rfl
  | ok result => exact absurd refused (refuseType_ne_ok _ _ _ _)

theorem readsAlone_string : ReadsAlone string := by
  intro value rest isValue
  obtain ⟨byte, front, start, together, begins⟩ := isValue.begins
  have ends := endsNumber_of_endsEntry isValue.ends
  unfold string
  rw [start, together]
  dsimp only
  split
  next quote =>
    subst quote
    cases begins with
    | text skipped => exact readText_append skipped
    | digit digit => exact absurd digit (by decide)
  next =>
    rw [refuseType_append begins ends, leaving_refuseType]

theorem readsAlone_flag : ReadsAlone flag := by
  intro value rest isValue
  obtain ⟨byte, front, start, together, begins⟩ := isValue.begins
  have ends := endsNumber_of_endsEntry isValue.ends
  unfold flag
  rw [start, together]
  dsimp only
  split
  next isTrue =>
    subst isTrue
    cases begins with
    | true word => rw [word, readWord_alone word]; rfl
    | digit digit => exact absurd digit (by decide)
  next =>
    split
    next isFalse =>
      subst isFalse
      cases begins with
      | false word => rw [word, readWord_alone word]; rfl
      | digit digit => exact absurd digit (by decide)
    next => rw [refuseType_append begins ends, leaving_refuseType]

theorem readsAlone_number (expected : String) : ReadsAlone (number expected) := by
  intro value rest isValue
  obtain ⟨byte, front, start, together, begins⟩ := isValue.begins
  have ends := endsNumber_of_endsEntry isValue.ends
  unfold number
  rw [start, together]
  dsimp only
  split
  next isMinus =>
    subst isMinus
    cases begins with
    | minus skipped => exact readNumber_append ends skipped false
    | digit digit => exact absurd digit (by decide)
  next noMinus =>
    split
    next digit =>
      cases begins with
      | digit _ skipped => exact @readNumber_append (byte :: front) rest ends skipped true
      | minus => exact absurd rfl noMinus
      | null | true | false | text | list | object => exact absurd digit (by decide)
    next => rw [refuseType_append begins ends, leaving_refuseType]

theorem readsAlone_count : ReadsAlone count := by
  intro value rest isValue
  unfold count
  rw [readsAlone_number "usize" value rest isValue]
  cases number "usize" value with
  | error fault => rfl
  | ok result =>
      obtain ⟨found, left⟩ := result
      cases found <;> rfl

/-- A value that may be `null` is read alone. -/
theorem readsAlone_optional
    {read : Reader α}
    (alone : ReadsAlone read)
    (skips : ∀ input, read (skipSpace input) = read input) :
    ReadsAlone (optional read) := by
  intro value rest isValue
  obtain ⟨byte, front, start, together, begins⟩ := isValue.begins
  have taken := alone value rest isValue
  rw [← skips, together, ← skips value, start] at taken
  unfold optional
  rw [start, together]
  dsimp only
  split
  next isNull =>
    subst isNull
    cases begins with
    | null word => rw [word, readWord_alone word]; rfl
    | digit digit => exact absurd digit (by decide)
  next =>
    rw [taken]
    cases read (byte :: front) <;> rfl

end Json
end Telemetry
