import Telemetry.Json.Reader

/-!
# Reading records

A record is an object with known fields in any order, or an array of its
fields in their order.  Unknown members of an object are skipped, and a field
may be given once.
-/

namespace Telemetry
namespace Json

/-- One field of a record that is collected in a draft. -/
structure Field (draft : Type) where
  /-- The name of the member. -/
  name : String
  /-- Whether the draft has the field already. -/
  isGiven : draft -> Bool
  /-- Whether an array that ends before this field leaves it out. -/
  mayBeAbsent : Bool
  /-- Reads the field's value into the draft. -/
  read : draft -> Reader draft

/-- The fields of a record, and what a complete record needs. -/
structure Shape (draft record : Type) where
  /-- The record's name in messages. -/
  name : String
  /-- The fields in their order. -/
  fields : List (Field draft)
  /-- The draft without any field. -/
  blank : draft
  /-- The record that a draft amounts to. -/
  complete : draft -> Except Fault record

/-- A field that a draft keeps in one place. -/
def Field.of (name : String) (mayBeAbsent : Bool) (read : Reader α)
    (get : draft -> Option α) (set : draft -> α -> draft) : Field draft :=
  { name, mayBeAbsent
    isGiven := fun draft => (get draft).isSome
    read := fun draft input =>
      match read input with
      | .error fault => .error fault
      | .ok (value, rest) => .ok (set draft value, rest) }

/-- The value of a field that a record needs. -/
def require (name : String) : Option α -> Except Fault α
  | some value => .ok value
  | none => .error (.missingField name)

/--
Goes to the next member of an object: `true` with the bytes after the opening
quote of its name, or `false` with the bytes at the closing brace.
-/
def nextKey (first : Bool) (input : Bytes) : Except Fault (Bool × Bytes) :=
  match skipSpace input with
  | [] => .error .endOfObject
  | byte :: rest =>
      if byte = 0x7d then .ok (false, byte :: rest)
      else if first then
        if byte = 0x22 then .ok (true, rest) else .error .keyNotText
      else if byte = 0x2c then
        match skipSpace rest with
        | [] => .error .endOfValue
        | next :: after =>
            if next = 0x22 then .ok (true, after)
            else if next = 0x7d then .error .trailingComma
            else .error .keyNotText
      else .error .expectedObjectEnd

/-- Reads the colon between a member's name and its value. -/
def readColon (input : Bytes) : Except Fault Bytes :=
  match skipSpace input with
  | [] => .error .endOfObject
  | byte :: rest => if byte = 0x3a then .ok rest else .error .expectedColon

/-- Reads the value of a member into the draft, or skips it when no field has its name. -/
def readMember (fields : List (Field draft)) (current : draft) (name : String) (input : Bytes) :
    Result draft :=
  match fields.find? fun field => field.name == name with
  | some field =>
      if field.isGiven current then .error (.duplicateField name)
      else
        match readColon input with
        | .error fault => .error fault
        | .ok rest => field.read current rest
  | none =>
      match readColon input with
      | .error fault => .error fault
      | .ok rest => (skipValue rest).map fun after => (current, after)

/--
Reads members up to the closing brace.  Every member takes at least one byte, so
the bytes of the object itself, its opening brace included, are fuel enough.
-/
def readMembers (fields : List (Field draft)) :
    (fuel : Bytes) -> (first : Bool) -> draft -> Bytes -> Result draft
  | [], _, _, _ => .error .endOfObject
  | _ :: fuel, first, current, input =>
      match nextKey first input with
      | .error fault => .error fault
      | .ok (false, rest) => .ok (current, rest.drop 1)
      | .ok (true, start) =>
          match readText start with
          | .error fault => .error fault
          | .ok (name, rest) =>
              match readMember fields current name rest with
              | .error fault => .error fault
              | .ok (next, after) => readMembers fields fuel false next after

/-- Reads the elements of an array into the fields in their order. -/
def readPositions (expected : String) :
    (position : Nat) -> List (Field draft) -> draft -> Bytes -> Result draft
  | _, [], current, input => .ok (current, input)
  | position, field :: fields, current, input =>
      match nextElement (position == 0) input with
      | .error fault => .error fault
      | .ok (false, rest) =>
          if field.mayBeAbsent then readPositions expected (position + 1) fields current rest
          else .error (.wrongLength position expected)
      | .ok (true, start) =>
          match field.read current start with
          | .error fault => .error fault
          | .ok (next, rest) => readPositions expected (position + 1) fields next rest

/-- Reads a record. -/
def Shape.read (shape : Shape draft record) : Reader record := fun input =>
  match skipSpace input with
  | [] => .error .endOfValue
  | byte :: rest =>
      if byte = 0x7b then
        match readMembers shape.fields (byte :: rest) true shape.blank rest with
        | .error fault => .error fault
        | .ok (draft, after) => (shape.complete draft).map fun record => (record, after)
      else if byte = 0x5b then
        let expected :=
          "struct " ++ shape.name ++ " with " ++ toString shape.fields.length ++ " elements"
        match readPositions expected 0 shape.fields shape.blank rest with
        | .error fault => .error fault
        | .ok (draft, after) =>
            match shape.complete draft with
            | .error fault => .error fault
            | .ok record => (closeList after).map fun rest => (record, rest)
      else refuseType record ("struct " ++ shape.name) byte rest

end Json
end Telemetry
