import Telemetry.Proofs.Json.Alone

/-!
# The entries of a record

Whatever a text holds, it can be taken apart without regard to the types of its
values: into entries, each with its name and the bytes of its value, and what
brings them to an end.  In an array the names are those of the positions.
-/

namespace Telemetry
namespace Json

/-! ## What is left is the end of the text -/

theorem skipSpace_suffix (input : Bytes) : skipSpace input <:+ input := by
  induction input with
  | nil => exact List.suffix_refl []
  | cons byte rest inductionHypothesis =>
      rw [skipSpace]
      split
      · exact inductionHypothesis.trans (List.suffix_cons byte rest)
      · exact List.suffix_refl _

/-- What is behind the first byte that is no blank is the end of the text, and not all of it. -/
theorem suffix_of_skipSpace
    {input rest : Bytes} {byte : UInt8}
    (start : skipSpace input = byte :: rest) :
    rest <:+ input ∧ rest.length < input.length := by
  have whole := skipSpace_suffix input
  rw [start] at whole
  exact ⟨(List.suffix_cons byte rest).trans whole, Nat.lt_of_succ_le whole.length_le⟩

theorem suffix_of_readWord
    {word : List Char} {input rest : Bytes}
    (read : readWord word input = .ok rest) :
    rest <:+ input := by
  fun_induction readWord word input with
  | case1 => cases read; exact List.suffix_refl _
  | case2 => cases read
  | case3 letter word byte others same inductionHypothesis =>
      exact (inductionHypothesis read).trans (List.suffix_cons byte others)
  | case4 => cases read

theorem suffix_of_skipSomeDigits
    {input rest : Bytes}
    (skipped : skipSomeDigits input = .ok rest) :
    rest <:+ input := by
  unfold skipSomeDigits at skipped
  split at skipped
  · split at skipped
    · cases skipped; exact List.dropWhile_suffix _
    · cases skipped
  · cases skipped

theorem suffix_of_skipExponent
    {input rest : Bytes}
    (skipped : skipExponent input = .ok rest) :
    rest <:+ input := by
  unfold skipExponent at skipped
  repeat' split at skipped
  · exact ((suffix_of_skipSomeDigits skipped).trans (List.suffix_cons _ _)).trans
      (List.suffix_cons _ _)
  · exact (suffix_of_skipSomeDigits skipped).trans (List.suffix_cons _ _)
  · cases skipped
  · cases skipped; exact List.suffix_refl _
  · cases skipped; exact List.suffix_refl _

theorem suffix_of_skipNumber
    {input rest : Bytes}
    (skipped : skipNumber input = .ok rest) :
    rest <:+ input := by
  cases input with
  | nil => cases skipped
  | cons first others =>
      have digits : (first :: others).dropWhile isDigitByte <:+ first :: others :=
        List.dropWhile_suffix _
      obtain ⟨-, behind⟩ := skipNumber_cons_eq_ok skipped
      split at behind
      next => exact behind ▸ List.nil_suffix
      next mark after start =>
        rw [start] at digits
        split at behind
        next =>
          obtain ⟨afterPlaces, places, exponent⟩ := behind
          exact (suffix_of_skipExponent exponent).trans
            ((suffix_of_skipSomeDigits places).trans ((List.suffix_cons _ _).trans digits))
        next => exact (suffix_of_skipExponent behind).trans digits

theorem suffix_of_skipEscape
    {input rest : Bytes}
    (skipped : skipEscape input = .ok rest) :
    rest <:+ input := by
  unfold skipEscape at skipped
  split at skipped
  next => cases skipped
  next kind others =>
    split at skipped
    next => cases skipped; exact List.suffix_cons _ _
    next =>
      split at skipped
      next =>
        split at skipped
        next => cases skipped
        next value after hex =>
          cases skipped
          obtain ⟨digits, rfl, -⟩ := exists_of_readFourHex hex
          exact (List.suffix_append digits rest).trans (List.suffix_cons _ _)
      next => cases skipped

theorem suffix_of_skipText
    {input rest : Bytes}
    (skipped : skipText input = .ok rest) :
    rest <:+ input := by
  fun_induction skipText input with
  | case1 => cases skipped
  | case2 => cases skipped; exact List.suffix_cons _ _
  | case3 => cases skipped
  | case4 others after escape _ inductionHypothesis =>
      exact (inductionHypothesis skipped).trans
        ((suffix_of_skipEscape escape).trans (List.suffix_cons _ _))
  | case5 => cases skipped
  | case6 byte others _ _ _ inductionHypothesis =>
      exact (inductionHypothesis skipped).trans (List.suffix_cons _ _)

theorem suffix_of_skipKey
    {input rest : Bytes}
    (skipped : skipKey input = .ok rest) :
    rest <:+ input := by
  unfold skipKey at skipped
  split at skipped
  next => cases skipped
  next quote others start =>
    split at skipped
    next =>
      split at skipped
      next => cases skipped
      next afterKey key =>
        split at skipped
        next => cases skipped
        next colon after colonStart =>
          split at skipped
          next =>
            cases skipped
            exact (suffix_of_skipSpace colonStart).1.trans
              ((suffix_of_skipText key).trans (suffix_of_skipSpace start).1)
          next => cases skipped
    next => cases skipped

theorem suffix_of_afterScalar
    {frames : List Frame} {result : Except Fault Bytes} {next : SkipState} {input rest : Bytes}
    (scalar : ∀ after, result = .ok after -> after <:+ input)
    (ended : afterScalar frames result = .ok (next, rest)) :
    rest <:+ input := by
  cases result with
  | error fault => cases ended
  | ok after => cases ended; exact scalar rest rfl

theorem suffix_of_skipValueStart
    {frames : List Frame} {next : SkipState} {input rest : Bytes}
    (started : skipValueStart frames input = .ok (next, rest)) :
    rest <:+ input := by
  unfold skipValueStart at started
  split at started
  next => cases started
  next byte others start =>
    have behind := (suffix_of_skipSpace start).1
    have whole : byte :: others <:+ input := start ▸ skipSpace_suffix input
    repeat' split at started
    · exact suffix_of_afterScalar (fun _ word => (suffix_of_readWord word).trans behind) started
    · exact suffix_of_afterScalar (fun _ word => (suffix_of_readWord word).trans behind) started
    · exact suffix_of_afterScalar (fun _ word => (suffix_of_readWord word).trans behind) started
    · exact suffix_of_afterScalar (fun _ number => (suffix_of_skipNumber number).trans behind)
        started
    · exact suffix_of_afterScalar (fun _ number => (suffix_of_skipNumber number).trans whole)
        started
    · exact suffix_of_afterScalar (fun _ text => (suffix_of_skipText text).trans behind) started
    · cases started; exact behind
    · cases started; exact behind
    · cases started

theorem suffix_of_nextMember
    {frame : Frame} {frames : List Frame} {next : SkipState} {input rest : Bytes}
    (started : nextMember frame frames input = .ok (next, rest)) :
    rest <:+ input := by
  cases frame with
  | list => exact suffix_of_skipValueStart started
  | object =>
      unfold nextMember at started
      dsimp only at started
      split at started
      next => cases started
      next after key => cases started; exact suffix_of_skipKey key

theorem suffix_of_skipStep
    {state next : SkipState} {input rest : Bytes}
    (step : skipStep state input = .ok (next, rest)) :
    rest <:+ input := by
  unfold skipStep at step
  split at step
  next => exact suffix_of_skipValueStart step
  next =>
    split at step
    next => cases step
    next byte others start =>
      split at step
      next => cases step; exact (suffix_of_skipSpace start).1
      next => exact (suffix_of_nextMember step).trans (start ▸ skipSpace_suffix input)
  next => cases step; exact List.suffix_refl _
  next =>
    split at step
    next => cases step
    next byte others start =>
      split at step
      next => exact (suffix_of_nextMember step).trans (suffix_of_skipSpace start).1
      next =>
        split at step
        next => cases step; exact (suffix_of_skipSpace start).1
        next => cases step

theorem suffix_of_skipSteps
    {fuel : Bytes} {state : SkipState} {input rest : Bytes}
    (skipped : skipSteps fuel state input = .ok rest) :
    rest <:+ input := by
  fun_induction skipSteps fuel state input with
  | case1 => cases skipped; exact List.suffix_refl _
  | case2 => cases skipped
  | case3 => cases skipped
  | case4 unit fuel state input _ next after step inductionHypothesis =>
      exact (inductionHypothesis skipped).trans (suffix_of_skipStep step)

theorem suffix_of_skipValue
    {input rest : Bytes}
    (skipped : skipValue input = .ok rest) :
    rest <:+ input :=
  suffix_of_skipSteps skipped

/-! ## Cutting a value out -/

/-- The bytes of the value at the start and those behind it, if it ends as the value of an entry
does. -/
def cutValue? (input : Bytes) : Option (Bytes × Bytes) :=
  match skipValue input with
  | .error _ => none
  | .ok rest =>
      if endsEntry rest then some (input.take (input.length - rest.length), rest) else none

theorem cutValue?_eq_some
    {input value rest : Bytes}
    (cut : cutValue? input = some (value, rest)) :
    input = value ++ rest ∧ IsValue value rest := by
  unfold cutValue? at cut
  split at cut
  next => cases cut
  next after skipped =>
    split at cut
    next ends =>
      cases cut
      obtain ⟨front, rfl⟩ := suffix_of_skipValue skipped
      have value : (front ++ rest).take ((front ++ rest).length - rest.length) = front := by simp
      rw [value]
      exact ⟨rfl, skipped, ends⟩
    next => cases cut

/-- A value that cannot be cut out is followed by what does not end an entry. -/
theorem cutValue?_eq_none
    {input rest : Bytes}
    (uncut : cutValue? input = none)
    (skipped : skipValue input = .ok rest) :
    endsEntry rest = false := by
  unfold cutValue? at uncut
  rw [skipped] at uncut
  dsimp only at uncut
  split at uncut
  next => cases uncut
  next goesOn => exact Bool.eq_false_iff.mpr goesOn

/-! ## Taking a text apart -/

deriving instance DecidableEq for Found, Fault

/-- How the entries of a record come to an end. -/
inductive Ending where
  /-- The record is closed, and these bytes follow it. -/
  | closed (rest : Bytes)
  /-- What follows the entries is refused. -/
  | refused (fault : Fault)
  /-- A name without a colon follows the entries. -/
  | colonless (name : String) (fault : Fault)
  /-- An entry follows of which the value does not end: its name and the bytes from its value on,
  with the fault of what stands behind the value, if there is one. -/
  | endless (name : String) (input : Bytes) (behind : Fault)
deriving DecidableEq

/-- The entries of a record with their ending. -/
structure Layout where
  /-- The names and the bytes of the values. -/
  entries : List (String × Bytes)
  /-- What brings the entries to an end. -/
  ending : Ending
deriving DecidableEq

/-- A layout with one more entry in front. -/
def Layout.cons (name : String) (value : Bytes) (layout : Layout) : Layout where
  entries := (name, value) :: layout.entries
  ending := layout.ending

/-- The members of an object; each takes at least one byte of the fuel. -/
def members : (fuel : Bytes) -> (first : Bool) -> Bytes -> Layout
  | [], _, _ => ⟨[], .refused .endOfObject⟩
  | _ :: fuel, first, input =>
      match nextKey first input with
      | .error fault => ⟨[], .refused fault⟩
      | .ok (false, rest) => ⟨[], .closed (rest.drop 1)⟩
      | .ok (true, start) =>
          match readText start with
          | .error fault => ⟨[], .refused fault⟩
          | .ok (name, rest) =>
              match readColon rest with
              | .error fault => ⟨[], .colonless name fault⟩
              | .ok behind =>
                  match cutValue? behind with
                  | none => ⟨[], .endless name behind .expectedObjectEnd⟩
                  | some (value, after) => (members fuel false after).cons name value

/-- The positions of an array, which are named in their order. -/
def positions : (first : Bool) -> (names : List String) -> Bytes -> Layout
  | _, [], input =>
      match closeList input with
      | .error fault => ⟨[], .refused fault⟩
      | .ok rest => ⟨[], .closed rest⟩
  | first, name :: names, input =>
      match nextElement first input with
      | .error fault => ⟨[], .refused fault⟩
      | .ok (false, rest) => ⟨[], .closed (rest.drop 1)⟩
      | .ok (true, start) =>
          match cutValue? start with
          | none =>
              ⟨[], .endless name start
                (if names = [] then .trailingCharacters else .expectedListEnd)⟩
          | some (value, after) => (positions false names after).cons name value

/-- The layout of a text, unless it is neither an object nor an array. -/
def layout? (names : List String) (content : Bytes) : Option Layout :=
  match skipSpace content with
  | [] => none
  | byte :: rest =>
      if byte = 0x7b then some (members (byte :: rest) true rest)
      else if byte = 0x5b then some (positions true names rest)
      else none

end Json
end Telemetry
