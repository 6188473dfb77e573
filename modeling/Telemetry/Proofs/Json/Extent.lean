import Telemetry.Proofs.Json.Record

/-!
# Readers take what is skipped

A text, a truth value or a count that can be read has as many bytes as a value
that is skipped there.  So all readers that take a value at one place go on at
the same place behind it.
-/

namespace Telemetry
namespace Json

/-- A reader takes one value without members or elements, with all of its bytes. -/
def TakesScalar (read : Reader α) : Prop :=
  ∀ input value rest, read input = .ok (value, rest) ->
    skipValueStart [] input = .ok (.after [], rest)

theorem skipValueStart_skipSpace (frames : List Frame) (input : Bytes) :
    skipValueStart frames (skipSpace input) = skipValueStart frames input := by
  unfold skipValueStart
  rw [skipSpace_skipSpace]

theorem TakesScalar.skipValue
    {read : Reader α} {input rest : Bytes} {value : α}
    (takes : TakesScalar read)
    (taken : read input = .ok (value, rest)) :
    skipValue input = .ok rest := by
  have started : skipStep (.value []) input = .ok (.after [], rest) :=
    takes input value rest taken
  rw [Json.skipValue, skipSteps, started]
  · cases input <;> rfl
  · nofun

/-- A value of the wrong type is refused in any case. -/
theorem refuseType_ne_ok (expected : String) (byte : UInt8) (rest : Bytes) (result : α × Bytes) :
    refuseType α expected byte rest ≠ .ok result := by
  intro taken
  unfold refuseType at taken
  dsimp only at taken
  repeat' split at taken
  all_goals cases taken

/-! ## Texts -/

/-- A text goes on behind an escape that is skipped. -/
theorem skipText_of_skipEscape
    {rest after : Bytes}
    (skipped : skipEscape rest = .ok after) :
    skipText (0x5c :: rest) = skipText after := by
  rw [skipText, if_neg (by decide), if_pos rfl]
  split
  next fault failed => rw [skipped] at failed; cases failed
  next beyond found => rw [skipped] at found; cases found; rfl

/-- An escape by number is skipped where its digits are read. -/
theorem skipText_of_readFourHex
    {rest after : Bytes} {value : Nat}
    (hex : readFourHex rest = .ok (value, after)) :
    skipText (0x5c :: 0x75 :: rest) = skipText after := by
  refine skipText_of_skipEscape ?_
  have notLetter : letterEscape? 0x75 = none := by decide
  rw [skipEscape, notLetter]
  simp [hex]

/-- The second half of a pair of surrogates is skipped as an escape of its own. -/
theorem skipText_of_readLowSurrogate
    {high : Nat} {rest after piece : Bytes}
    (read : readLowSurrogate high rest = .ok (piece, after)) :
    skipText rest = skipText after := by
  unfold readLowSurrogate at read
  split at read
  next => cases read
  next => split at read <;> cases read
  next mark kind others =>
    split at read
    next => cases read
    next isMark =>
      split at read
      next => cases read
      next isKind =>
        obtain rfl := Classical.not_not.mp isMark
        obtain rfl := Classical.not_not.mp isKind
        split at read
        next => cases read
        next second last hex =>
          rw [skipText_of_readFourHex hex]
          split at read
          next =>
            obtain ⟨-, rfl⟩ := Prod.mk.inj (Except.ok.inj read)
            rfl
          next => cases read

theorem skipText_of_readPointEscape
    {rest after piece : Bytes}
    (read : readPointEscape rest = .ok (piece, after)) :
    skipText (0x5c :: 0x75 :: rest) = skipText after := by
  unfold readPointEscape at read
  split at read
  next => cases read
  next point middle hex =>
    rw [skipText_of_readFourHex hex]
    split at read
    next => cases read
    next =>
      split at read
      next => exact skipText_of_readLowSurrogate read
      next =>
        obtain ⟨-, rfl⟩ := Prod.mk.inj (Except.ok.inj read)
        rfl

/-- An escape is skipped where it is read. -/
theorem skipText_of_readEscape
    {rest after piece : Bytes}
    (read : readEscape rest = .ok (piece, after)) :
    skipText (0x5c :: rest) = skipText after := by
  cases rest with
  | nil => cases read
  | cons kind rest =>
      rw [readEscape] at read
      cases letter : letterEscape? kind with
      | some byte =>
          rw [letter] at read
          cases read
          refine skipText_of_skipEscape ?_
          rw [skipEscape, letter]
      | none =>
          rw [letter] at read
          dsimp only at read
          split at read
          next isPoint =>
            subst isPoint
            exact skipText_of_readPointEscape read
          next => cases read

/-- A text is skipped where it is read. -/
theorem skipText_of_readTextBytes
    {done input bytes rest : Bytes}
    (read : readTextBytes done input = .ok (bytes, rest)) :
    skipText input = .ok rest := by
  fun_induction readTextBytes done input with
  | case1 => cases read
  | case2 done after =>
      cases read
      rw [skipText, if_pos rfl]
  | case3 => cases read
  | case4 done after piece beyond escape _ inductionHypothesis =>
      rw [skipText_of_readEscape escape]
      exact inductionHypothesis read
  | case5 => cases read
  | case6 done byte after notQuote notBackslash noControl inductionHypothesis =>
      rw [skipText, if_neg notQuote, if_neg notBackslash, if_neg noControl]
      exact inductionHypothesis read

theorem takesScalar_string : TakesScalar string := by
  intro input value rest read
  unfold string at read
  unfold skipValueStart
  cases start : skipSpace input with
  | nil => rw [start] at read; cases read
  | cons byte after =>
      rw [start] at read
      dsimp only at read ⊢
      split at read
      next quote =>
        subst quote
        unfold readText at read
        split at read
        next => cases read
        next bytes beyond taken =>
          split at read
          next text isText =>
            cases read
            rw [skipText_of_readTextBytes taken]
            rfl
          next => cases read
      next => exact absurd read (refuseType_ne_ok _ _ _ _)

/-! ## Truth values -/

theorem takesScalar_flag : TakesScalar flag := by
  intro input value rest read
  unfold flag at read
  unfold skipValueStart
  cases start : skipSpace input with
  | nil => rw [start] at read; cases read
  | cons byte after =>
      rw [start] at read
      dsimp only at read ⊢
      split at read
      next isTrue =>
        subst isTrue
        cases word : readWord ['r', 'u', 'e'] after with
        | error fault => rw [word] at read; cases read
        | ok beyond => rw [word] at read; cases read; rfl
      next =>
        split at read
        next isFalse =>
          subst isFalse
          cases word : readWord ['a', 'l', 's', 'e'] after with
          | error fault => rw [word] at read; cases read
          | ok beyond => rw [word] at read; cases read; rfl
        next => exact absurd read (refuseType_ne_ok _ _ _ _)

/-! ## Counts -/

/-- A number is whole only if it has neither places nor an exponent. -/
theorem readRealEnd_ne_natural
    {positive : Bool} {significand value : Nat} {exponent : Int} {input rest : Bytes} :
    readRealEnd positive significand exponent input ≠ .ok (.natural value, rest) := by
  intro read
  unfold readRealEnd readExponentPart at read
  dsimp only at read
  repeat' split at read
  all_goals cases read

theorem readPlaces_ne_natural
    {positive : Bool} {significand value : Nat} {start : Int} {input rest : Bytes} :
    readPlaces positive significand start input ≠ .ok (.natural value, rest) := by
  intro read
  unfold readPlaces at read
  split at read
  next => cases read
  next =>
    split at read
    next => exact readRealEnd_ne_natural read
    next => cases read

/-- A whole number without a sign is made of digits alone, and no zero stands before others. -/
theorem readNumber_natural
    {positive : Bool} {first : UInt8} {others rest : Bytes} {value : Nat}
    (read : readNumber positive (first :: others) = .ok (.natural value, rest)) :
    positive = true ∧ isDigitByte first = true ∧
      ¬(first = 0x30 ∧ 1 < ((first :: others).takeWhile isDigitByte).length) ∧
      skipDigits (first :: others) = rest ∧
      ∀ mark after, rest = mark :: after -> mark ≠ 0x2e ∧ ¬(mark = 0x65 ∨ mark = 0x45) := by
  have whole {significand : Nat} {after : Bytes}
      (same : (Except.ok (wholeNumber positive significand, after) : Result Number) =
        .ok (.natural value, rest)) :
      positive = true ∧ after = rest := by
    obtain ⟨natural, same⟩ := Prod.mk.inj (Except.ok.inj same)
    refine ⟨?_, same⟩
    by_contra negative
    unfold wholeNumber at natural
    rw [if_neg negative] at natural
    split at natural <;> cases natural
  unfold readNumber at read
  dsimp only at read
  split at read
  next digit =>
    split at read
    next => cases read
    next proper =>
      unfold skipDigits
      cases behind : (first :: others).dropWhile isDigitByte with
      | nil =>
          rw [behind] at read
          dsimp only at read
          split at read
          next => exact absurd read readRealEnd_ne_natural
          next =>
            obtain ⟨isPositive, rfl⟩ := whole read
            exact ⟨isPositive, digit, proper, rfl, nofun⟩
      | cons mark after =>
          rw [behind] at read
          dsimp only at read
          split at read
          next => exact absurd read readPlaces_ne_natural
          next noPoint =>
            split at read
            next => exact absurd read readRealEnd_ne_natural
            next noExponent =>
              obtain ⟨isPositive, rfl⟩ := whole read
              refine ⟨isPositive, digit, proper, rfl, ?_⟩
              rintro _ _ ⟨rfl, rfl⟩
              exact ⟨noPoint, fun isMark => noExponent (or_assoc.mp (Or.inl isMark))⟩
  next => cases read

/-- A whole number is skipped where it is read, and it has no sign. -/
theorem skipNumber_of_readNumber
    {positive : Bool} {input rest : Bytes} {value : Nat}
    (read : readNumber positive input = .ok (.natural value, rest)) :
    positive = true ∧ skipNumber input = .ok rest := by
  cases input with
  | nil => cases read
  | cons first others =>
      obtain ⟨isPositive, digit, proper, isRest, ends⟩ := readNumber_natural read
      -- A zero before another digit has been refused.
      have noLeadingZero {second : UInt8} {more : Bytes} (behind : others = second :: more) :
          (decide (first = 0x30) && isDigitByte second) = false := by
        refine Bool.eq_false_iff.mpr fun leadingZero => proper ?_
        obtain ⟨zero, another⟩ := (Bool.and_eq_true _ _).mp leadingZero
        refine ⟨of_decide_eq_true zero, ?_⟩
        rw [behind, List.takeWhile_cons_of_pos digit, List.takeWhile_cons_of_pos another]
        simp
      refine ⟨isPositive, ?_⟩
      unfold skipNumber
      dsimp only
      rw [if_pos digit, isRest]
      refine (if_neg ?_).trans ?_
      · cases others with
        | nil => exact Bool.false_ne_true
        | cons second more => exact Bool.eq_false_iff.mp (noLeadingZero rfl)
      · cases rest with
        | nil => rfl
        | cons mark after =>
            obtain ⟨noPoint, noExponent⟩ := ends mark after rfl
            dsimp only
            rw [if_neg noPoint]
            unfold skipExponent
            dsimp only
            rw [if_neg noExponent]

theorem takesScalar_count : TakesScalar count := by
  intro input value rest read
  unfold count at read
  split at read
  next => cases read
  next natural beyond taken =>
    obtain ⟨rfl, rfl⟩ := Prod.mk.inj (Except.ok.inj read)
    unfold number at taken
    unfold skipValueStart
    cases start : skipSpace input with
    | nil => rw [start] at taken; cases taken
    | cons byte after =>
        rw [start] at taken
        dsimp only at taken ⊢
        split at taken
        next => exact absurd (skipNumber_of_readNumber taken).1 Bool.false_ne_true
        next notMinus =>
          split at taken
          next digit =>
            have skipped := (skipNumber_of_readNumber taken).2
            have other {letter : UInt8} (noDigit : isDigitByte letter = false) : byte ≠ letter := by
              rintro rfl
              rw [digit] at noDigit
              cases noDigit
            rw [if_neg (other (by decide)), if_neg (other (by decide)), if_neg (other (by decide)),
              if_neg notMinus, if_pos digit, skipped]
            rfl
          next => exact absurd taken (refuseType_ne_ok _ _ _ _)
  next => cases read
  next => cases read

/-! ## Values that may be missing -/

theorem takesScalar_optional {read : Reader α} (takes : TakesScalar read) :
    TakesScalar (optional read) := by
  intro input value rest taken
  unfold optional at taken
  cases start : skipSpace input with
  | nil => rw [start] at taken; cases taken
  | cons byte after =>
      rw [start] at taken
      dsimp only at taken
      split at taken
      next isNull =>
        subst isNull
        cases word : readWord ['u', 'l', 'l'] after with
        | error fault => rw [word] at taken; cases taken
        | ok beyond =>
            rw [word] at taken
            cases taken
            rw [skipValueStart, start]
            simp [afterScalar, word]
      next =>
        cases answer : read (byte :: after) with
        | error fault => rw [answer] at taken; cases taken
        | ok result =>
            rw [answer] at taken
            cases taken
            rw [← skipValueStart_skipSpace, start]
            exact takes _ _ _ answer

end Json
end Telemetry
