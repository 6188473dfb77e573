import Telemetry.Rpc.Varint

/-!
# Fields of messages

A message is a row of fields, each with a key that holds its number and the
form of its value.  A reader that does not know a field skips it by its form.
-/

namespace Telemetry
namespace Rpc

/-- The form of a value. -/
inductive Form where
  /-- A number of variable length. -/
  | varint
  /-- Eight bytes. -/
  | eight
  /-- A length and as many bytes. -/
  | sized
  /-- The start of a group of fields. -/
  | groupStart
  /-- The end of a group of fields. -/
  | groupEnd
  /-- Four bytes. -/
  | four
deriving DecidableEq

namespace Form

/-- The number of a form in a key. -/
def code : Form -> Nat
  | .varint => 0
  | .eight => 1
  | .sized => 2
  | .groupStart => 3
  | .groupEnd => 4
  | .four => 5

/-- The form of a number in a key. -/
def ofCode? (code : Nat) : Option Form :=
  [varint, eight, sized, groupStart, groupEnd, four][code]?

@[simp] theorem ofCode?_code (form : Form) : ofCode? form.code = some form := by
  cases form <;> rfl

end Form

/-- The key of a field. -/
structure Key where
  /-- The number of the field, which is not zero. -/
  field : Nat
  /-- The form of its value. -/
  form : Form
deriving DecidableEq

/-- The bytes of a key. -/
def Key.write (key : Key) : Bytes :=
  writeVarint (8 * key.field + key.form.code)

/-- Reads a key, whose number is below `2 ^ 32`. -/
def readKey? (bytes : Bytes) : Option (Key × Bytes) :=
  match readVarint? bytes with
  | none => none
  | some (value, rest) =>
      if value < UInt32.size ∧ 8 ≤ value then
        (Form.ofCode? (value % 8)).map fun form => (⟨value / 8, form⟩, rest)
      else none

/-- Takes some bytes off the front, when there are as many. -/
def takeBytes? (count : Nat) (bytes : Bytes) : Option (Bytes × Bytes) :=
  if bytes.hasAtLeast count then some (bytes.take count, bytes.drop count) else none

/-- Reads a length and as many bytes. -/
def readSized? (bytes : Bytes) : Option (Bytes × Bytes) :=
  match readVarint? bytes with
  | none => none
  | some (count, rest) => takeBytes? count rest

/-- The most groups that may be open inside of each other. -/
def depthLimit : Nat := 100

/--
Skips fields until all groups are closed, `opened` being the fields of the open
groups, the innermost first.  Every key takes at least one byte, so the bytes that
are left are fuel enough.
-/
def skipGroups? (limit : Nat) : (fuel : Bytes) -> (opened : List Nat) -> Bytes -> Option Bytes
  | _, [], bytes => some bytes
  | [], _ :: _, _ => none
  | _ :: fuel, innermost :: outer, bytes =>
      match readKey? bytes with
      | none => none
      | some (key, rest) =>
          if key.form = .groupEnd then
            if key.field = innermost then skipGroups? limit fuel outer rest else none
          else if limit ≤ outer.length + 1 then none
          else
            match key.form with
            | .groupStart => skipGroups? limit fuel (key.field :: innermost :: outer) rest
            | .varint =>
                (readVarint? rest).bind fun (_, after) =>
                  skipGroups? limit fuel (innermost :: outer) after
            | .sized =>
                (readSized? rest).bind fun (_, after) =>
                  skipGroups? limit fuel (innermost :: outer) after
            | .eight =>
                (takeBytes? 8 rest).bind fun (_, after) =>
                  skipGroups? limit fuel (innermost :: outer) after
            | _ =>
                (takeBytes? 4 rest).bind fun (_, after) =>
                  skipGroups? limit fuel (innermost :: outer) after

/-- Skips the value of a field, at most `limit` groups deep. -/
def skipField? (limit : Nat) (key : Key) (bytes : Bytes) : Option Bytes :=
  match key.form with
  | .varint => (readVarint? bytes).map Prod.snd
  | .sized => (readSized? bytes).map Prod.snd
  | .eight => (takeBytes? 8 bytes).map Prod.snd
  | .four => (takeBytes? 4 bytes).map Prod.snd
  | .groupStart => skipGroups? limit bytes [key.field] bytes
  | .groupEnd => none

end Rpc
end Telemetry
