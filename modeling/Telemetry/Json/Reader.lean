import Telemetry.Json.Skip

/-!
# Reading typed values

Readers for the types that records are made of.  A reader refuses at the
first byte that does not fit, so of two faults the earlier one is reported.
-/

namespace Telemetry
namespace Json

/-- A reader of one type. -/
abbrev Reader (α : Type) := Bytes -> Result α

/-- The refusal of a value of the wrong type, once that value itself has been read. -/
def refuseType (α : Type) (expected : String) (byte : UInt8) (rest : Bytes) : Result α :=
  let word (letters : List Char) (found : Found) : Result α :=
    match readWord letters rest with
    | .error fault => .error fault
    | .ok _ => .error (.wrongType found expected)
  let number (result : Result Number) : Result α :=
    match result with
    | .error fault => .error fault
    | .ok (value, _) => .error (.wrongType value.found expected)
  if byte = 0x6e then word ['u', 'l', 'l'] .null
  else if byte = 0x74 then word ['r', 'u', 'e'] (.flag true)
  else if byte = 0x66 then word ['a', 'l', 's', 'e'] (.flag false)
  else if byte = 0x2d then number (readNumber false rest)
  else if isDigitByte byte then number (readNumber true (byte :: rest))
  else if byte = 0x22 then
    match readText rest with
    | .error fault => .error fault
    | .ok (text, _) => .error (.wrongType (.text text) expected)
  else if byte = 0x5b then .error (.wrongType .list expected)
  else if byte = 0x7b then .error (.wrongType .object expected)
  else .error .expectedValue

/-- Reads a string. -/
def string : Reader String := fun input =>
  match skipSpace input with
  | [] => .error .endOfValue
  | byte :: rest => if byte = 0x22 then readText rest else refuseType String "a string" byte rest

/-- Reads `true` or `false`. -/
def flag : Reader Bool := fun input =>
  match skipSpace input with
  | [] => .error .endOfValue
  | byte :: rest =>
      if byte = 0x74 then (readWord ['r', 'u', 'e'] rest).map fun after => (true, after)
      else if byte = 0x66 then
        (readWord ['a', 'l', 's', 'e'] rest).map fun after => (false, after)
      else refuseType Bool "a boolean" byte rest

/-- Reads a number of any kind. -/
def number (expected : String) : Reader Number := fun input =>
  match skipSpace input with
  | [] => .error .endOfValue
  | byte :: rest =>
      if byte = 0x2d then readNumber false rest
      else if isDigitByte byte then readNumber true (byte :: rest)
      else refuseType Number expected byte rest

/-- Reads a number as a double. -/
def real : Reader Binary64 := fun input =>
  match number "f64" input with
  | .error fault => .error fault
  | .ok (value, rest) => .ok (value.toReal, rest)

/-- Reads a signed whole number of sixty-four bits. -/
def int64 : Reader Int64 := fun input =>
  match number "i64" input with
  | .error fault => .error fault
  | .ok (.natural value, rest) =>
      if value < 1 <<< 63 then .ok (Int64.ofNat value, rest)
      else .error (.wrongValue (.whole value) "i64")
  | .ok (.negative value, rest) => .ok (Int64.ofInt value, rest)
  | .ok (.real value, _) => .error (.wrongType (.real value) "i64")

/-- Reads a count below `2 ^ 64`. -/
def count : Reader Nat := fun input =>
  match number "usize" input with
  | .error fault => .error fault
  | .ok (.natural value, rest) => .ok (value, rest)
  | .ok (.negative value, _) => .error (.wrongValue (.whole value) "usize")
  | .ok (.real value, _) => .error (.wrongType (.real value) "usize")

/-- Reads a value or `null`. -/
def optional (read : Reader α) : Reader (Option α) := fun input =>
  match skipSpace input with
  | [] => .error .endOfValue
  | byte :: rest =>
      if byte = 0x6e then (readWord ['u', 'l', 'l'] rest).map fun after => (none, after)
      else (read (byte :: rest)).map fun (value, after) => (some value, after)

/--
Goes to the next element of an array: `some` with the bytes at it, or `none`
with the bytes at the closing bracket.  `first` says that no element was read.
-/
def nextElement (first : Bool) (input : Bytes) : Except Fault (Bool × Bytes) :=
  match skipSpace input with
  | [] => .error .endOfList
  | byte :: rest =>
      if byte = 0x5d then .ok (false, byte :: rest)
      else if first then .ok (true, byte :: rest)
      else if byte = 0x2c then
        match skipSpace rest with
        | [] => .error .endOfValue
        | next :: after =>
            if next = 0x5d then .error .trailingComma else .ok (true, next :: after)
      else .error .expectedListEnd

/-- Closes an array after its last expected element. -/
def closeList (input : Bytes) : Except Fault Bytes :=
  match skipSpace input with
  | [] => .error .endOfList
  | byte :: rest =>
      if byte = 0x5d then .ok rest
      else if byte = 0x2c then
        match skipSpace rest with
        | next :: _ => if next = 0x5d then .error .trailingComma else .error .trailingCharacters
        | [] => .error .trailingCharacters
      else .error .trailingCharacters

/--
Reads elements up to the closing bracket, `done` being the elements read so
far, the last one first.  Every element takes at least one byte, so the bytes of
the array itself, its opening bracket included, are fuel enough.
-/
def readElements (read : Reader α) :
    (fuel : Bytes) -> (first : Bool) -> (done : List α) -> Bytes -> Result (List α)
  | [], _, _, _ => .error .endOfList
  | _ :: fuel, first, done, input =>
      match nextElement first input with
      | .error fault => .error fault
      | .ok (false, rest) => (closeList rest).map fun after => (done.reverse, after)
      | .ok (true, start) =>
          match read start with
          | .error fault => .error fault
          | .ok (element, rest) => readElements read fuel false (element :: done) rest

/-- Reads an array. -/
def list (read : Reader α) : Reader (List α) := fun input =>
  match skipSpace input with
  | [] => .error .endOfValue
  | byte :: rest =>
      if byte = 0x5b then readElements read (byte :: rest) true [] rest
      else refuseType (List α) "a sequence" byte rest

/-- Reads a whole text as one value: nothing but blanks may follow it. -/
def decode (read : Reader α) (input : Bytes) : Except Fault α :=
  match read input with
  | .error fault => .error fault
  | .ok (value, rest) =>
      match skipSpace rest with
      | [] => .ok value
      | _ :: _ => .error .trailingCharacters

end Json
end Telemetry
