import Telemetry.Json.Number

/-!
# Skipping a value

A member that a record does not know is skipped: its syntax is checked, its
numbers may have any size and its strings need not be UTF-8.  The open arrays
and objects are a list, so values may be nested to any depth.
-/

namespace Telemetry
namespace Json

/-- Skips digits. -/
def skipDigits (input : Bytes) : Bytes :=
  input.dropWhile isDigitByte

/-- Skips digits of which there has to be at least one. -/
def skipSomeDigits (input : Bytes) : Except Fault Bytes :=
  match input with
  | first :: _ => if isDigitByte first then .ok (skipDigits input) else .error .invalidNumber
  | [] => .error .invalidNumber

/-- Skips an exponent if one follows. -/
def skipExponent (input : Bytes) : Except Fault Bytes :=
  match input with
  | mark :: rest =>
      if mark = 0x65 ∨ mark = 0x45 then
        match rest with
        | sign :: after =>
            if sign = 0x2b ∨ sign = 0x2d then skipSomeDigits after else skipSomeDigits rest
        | [] => .error .invalidNumber
      else .ok input
  | [] => .ok input

/-- Skips a number of which the sign has been read. -/
def skipNumber (input : Bytes) : Except Fault Bytes :=
  match input with
  | [] => .error .invalidNumber
  | first :: rest =>
      if isDigitByte first then
        let leadingZero :=
          match rest with
          | second :: _ => first = 0x30 && isDigitByte second
          | [] => false
        if leadingZero then .error .invalidNumber
        else
          match skipDigits input with
          | mark :: after =>
              if mark = 0x2e then
                match skipSomeDigits after with
                | .error fault => .error fault
                | .ok afterPlaces => skipExponent afterPlaces
              else skipExponent (mark :: after)
          | [] => .ok []
      else .error .invalidNumber

/-- Skips an escape of which the backslash has been read. -/
def skipEscape : Bytes -> Except Fault Bytes
  | [] => .error .endOfText
  | kind :: rest =>
      match letterEscape? kind with
      | some _ => .ok rest
      | none =>
          if kind = 0x75 then
            match readFourHex rest with
            | .error fault => .error fault
            | .ok (_, after) => .ok after
          else .error .invalidEscape

/-- An escape takes at least one byte. -/
theorem length_of_skipEscape {input rest : Bytes}
    (skip : skipEscape input = .ok rest) : rest.length < input.length := by
  unfold skipEscape at skip
  split at skip
  · cases skip
  · split at skip
    · cases skip
      simp
    · split at skip
      · split at skip
        · cases skip
        · next readHex =>
          have shorter := length_of_readFourHex readHex
          cases skip
          simp only [List.length_cons]
          omega
      · cases skip

/-- Skips a string of which the opening quote has been read. -/
def skipText (input : Bytes) : Except Fault Bytes :=
  match input with
  | [] => .error .endOfText
  | byte :: rest =>
      if byte = 0x22 then .ok rest
      else if byte = 0x5c then
        match _ : skipEscape rest with
        | .error fault => .error fault
        | .ok after => skipText after
      else if byte < 0x20 then .error .controlCharacter
      else skipText rest
termination_by input.length
decreasing_by
  · have shorter := length_of_skipEscape ‹skipEscape rest = _›
    simp only [List.length_cons]
    omega
  · simp

/-- An array or object that has been opened and not yet closed. -/
inductive Frame where
  /-- An array. -/
  | list
  /-- An object. -/
  | object

/-- What has to follow while a value is skipped; the innermost frame comes first. -/
inductive SkipState where
  /-- A value, inside some frames. -/
  | value (frames : List Frame)
  /-- The first member or the end of the innermost frame. -/
  | opened (frame : Frame) (frames : List Frame)
  /-- A comma or the end of the innermost frame. -/
  | after (frames : List Frame)

/-- Skips a member's name and the colon after it. -/
def skipKey (input : Bytes) : Except Fault Bytes :=
  match skipSpace input with
  | [] => .error .endOfObject
  | quote :: rest =>
      if quote = 0x22 then
        match skipText rest with
        | .error fault => .error fault
        | .ok afterKey =>
            match skipSpace afterKey with
            | [] => .error .endOfObject
            | colon :: after => if colon = 0x3a then .ok after else .error .expectedColon
      else .error .keyNotText

/-- The rest after a skipped scalar, with the state that follows it. -/
def afterScalar (frames : List Frame) (result : Except Fault Bytes) :
    Except Fault (SkipState × Bytes) :=
  match result with
  | .error fault => .error fault
  | .ok rest => .ok (.after frames, rest)

/-- Skips a scalar or opens an array or object. -/
def skipValueStart (frames : List Frame) (input : Bytes) : Except Fault (SkipState × Bytes) :=
  match skipSpace input with
  | [] => .error .endOfValue
  | byte :: rest =>
      if byte = 0x6e then afterScalar frames (readWord ['u', 'l', 'l'] rest)
      else if byte = 0x74 then afterScalar frames (readWord ['r', 'u', 'e'] rest)
      else if byte = 0x66 then afterScalar frames (readWord ['a', 'l', 's', 'e'] rest)
      else if byte = 0x2d then afterScalar frames (skipNumber rest)
      else if isDigitByte byte then afterScalar frames (skipNumber (byte :: rest))
      else if byte = 0x22 then afterScalar frames (skipText rest)
      else if byte = 0x5b then .ok (.opened .list frames, rest)
      else if byte = 0x7b then .ok (.opened .object frames, rest)
      else .error .expectedValue

/-- Whether a byte closes a frame. -/
def Frame.closedBy (frame : Frame) (byte : UInt8) : Bool :=
  match frame with
  | .list => byte == 0x5d
  | .object => byte == 0x7d

/-- Starts the next value of a list, or skips the name of an object's next member. -/
def nextMember (frame : Frame) (frames : List Frame) (input : Bytes) :
    Except Fault (SkipState × Bytes) :=
  match frame with
  | .list => skipValueStart (frame :: frames) input
  | .object =>
      match skipKey input with
      | .error fault => .error fault
      | .ok rest => .ok (.value (frame :: frames), rest)

/-- The refusal of a text that ends inside a frame. -/
def Frame.endFault : Frame -> Fault
  | .list => .endOfList
  | .object => .endOfObject

/-- The refusal of a byte that is neither a comma nor the end of a frame. -/
def Frame.commaFault : Frame -> Fault
  | .list => .expectedListEnd
  | .object => .expectedObjectEnd

/-- Takes one step; all but that of a value which has ended take at least one byte. -/
def skipStep (state : SkipState) (input : Bytes) : Except Fault (SkipState × Bytes) :=
  match state with
  | .value frames => skipValueStart frames input
  | .opened frame frames =>
      match skipSpace input with
      | [] => .error frame.endFault
      | byte :: rest =>
          if frame.closedBy byte then .ok (.after frames, rest)
          else nextMember frame frames (byte :: rest)
  | .after [] => .ok (.after [], input)
  | .after (frame :: frames) =>
      match skipSpace input with
      | [] => .error frame.endFault
      | byte :: rest =>
          if byte = 0x2c then nextMember frame frames rest
          else if frame.closedBy byte then .ok (.after frames, rest)
          else .error frame.commaFault

/-- Takes steps until the outermost value has ended, at most one for each byte of the fuel. -/
def skipSteps : (fuel : Bytes) -> SkipState -> Bytes -> Except Fault Bytes
  | _, .after [], input => .ok input
  | [], _, _ => .error .endOfValue
  | _ :: fuel, state, input =>
      match skipStep state input with
      | .error fault => .error fault
      | .ok (next, rest) => skipSteps fuel next rest

/-- Skips one value: one step more than there are bytes finds the end of the text. -/
def skipValue (input : Bytes) : Except Fault Bytes :=
  skipSteps (0 :: input) (.value []) input

end Json
end Telemetry
