import Telemetry.Bytes

/-!
# Distinguished encoding

Reading of tagged values: a tag, a length in its shortest form and the bytes
of the value.  A value that contains others has nothing after the last one.
-/

namespace Telemetry
namespace Sealing
namespace Der

/-- The tag of whole numbers. -/
def integerTag : UInt8 := 0x02

/-- The tag of bit strings. -/
def bitStringTag : UInt8 := 0x03

/-- The tag of sequences. -/
def sequenceTag : UInt8 := 0x30

/-- The limit of lengths. -/
def lengthLimit : Nat := 1 <<< 28

/-- Reads a length and returns the bytes after it. -/
def readLength? : Bytes -> Option (Nat × Bytes)
  | [] => none
  | first :: rest =>
      if first < 0x80 then some (first.toNat, rest)
      else
        let width := first.toNat - 128
        if width = 0 ∨ 4 < width ∨ rest.length < width then none
        else
          let length := Bytes.toNatBig (rest.take width)
          let isShortest := 128 ≤ length ∧ 1 <<< (8 * (width - 1)) ≤ length
          if isShortest ∧ length < lengthLimit then some (length, rest.drop width) else none

/-- Reads a value with a given tag; returns its bytes and those after it. -/
def readValue? (tag : UInt8) : Bytes -> Option (Bytes × Bytes)
  | [] => none
  | first :: rest =>
      if first ≠ tag then none
      else
        match readLength? rest with
        | none => none
        | some (length, after) =>
            if after.length < length then none else some (after.take length, after.drop length)

/-- Reads a value with a given tag that is the whole of its input. -/
def readWhole? (tag : UInt8) (input : Bytes) : Option Bytes :=
  match readValue? tag input with
  | some (value, []) => some value
  | _ => none

/-- The number of a value, which must not be negative and have no byte too many. -/
def natural? : Bytes -> Option Nat
  | [] => none
  | [byte] => if byte < 0x80 then some byte.toNat else none
  | first :: second :: rest =>
      if 0x80 ≤ first ∨ (first = 0 ∧ second < 0x80) then none
      else some (Bytes.toNatBig (first :: second :: rest))

/-- Reads a number that is not negative. -/
def readNatural? (input : Bytes) : Option (Nat × Bytes) := do
  let (value, rest) ← readValue? integerTag input
  let number ← natural? value
  some (number, rest)

/-- Reads numbers up to the end of the input. -/
def readNaturals? : (count : Nat) -> Bytes -> Option (List Nat)
  | 0, [] => some []
  | 0, _ :: _ => none
  | count + 1, input => do
      let (number, rest) ← readNatural? input
      let numbers ← readNaturals? count rest
      some (number :: numbers)

end Der
end Sealing
end Telemetry
