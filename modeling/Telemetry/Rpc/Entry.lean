import Telemetry.Metric
import Telemetry.Rpc.Fields

/-!
# Metrics in calls

An entry carries a metric in a call.  Its kind is a number, of which zero
stands for a gauge and one for a counter; a field that has its default is left
out.
-/

namespace Telemetry
namespace Rpc

/-- A metric in a call. -/
structure Entry where
  /-- The name. -/
  id : String := ""
  /-- The number of the kind. -/
  tag : Int32 := 0
  /-- What is added to a counter. -/
  delta : Int64 := 0
  /-- What a gauge is set to. -/
  value : Binary64 := ⟨0⟩
deriving DecidableEq

/-- The number of a kind. -/
def tagOf : MetricKind -> Int32
  | .gauge => 0
  | .counter => 1

/-- The kind of a number, if it stands for one. -/
def kindOf? (tag : Int32) : Option MetricKind :=
  if tag = 0 then some .gauge else if tag = 1 then some .counter else none

@[simp] theorem kindOf?_tagOf (kind : MetricKind) : kindOf? (tagOf kind) = some kind := by
  cases kind <;> rfl

namespace Entry

/-- The entry that a sender makes of a metric: whatever is no counter goes as a gauge. -/
def ofMetric (metric : Metric) : Entry :=
  match MetricKind.ofName? metric.type with
  | some .counter => { id := metric.id, tag := tagOf .counter, delta := metric.delta.getD 0 }
  | _ => { id := metric.id, tag := tagOf .gauge, value := metric.value.getD ⟨0⟩ }

/-- The metric that a receiver makes of an entry: an unknown kind is named by its number. -/
def toMetric (entry : Entry) : Metric :=
  match kindOf? entry.tag with
  | some .gauge => (Update.gauge entry.id entry.value).toMetric
  | some .counter => (Update.counter entry.id entry.delta).toMetric
  | none => ⟨entry.id, toString entry.tag.toInt, none, none⟩

/-- A field with its value, or nothing when the value is the default. -/
def field (isDefault : Bool) (number : Nat) (form : Form) (value : Bytes) : Bytes :=
  if isDefault then [] else Key.write ⟨number, form⟩ ++ value

/-- A length and as many bytes. -/
def sized (bytes : Bytes) : Bytes :=
  writeVarint bytes.length ++ bytes

/-- The bytes of an entry; zero of either sign is the default of a value. -/
def write (entry : Entry) : Bytes :=
  field (entry.id == "") 1 .sized (sized (Bytes.ofText entry.id))
    ++ field (entry.tag == 0) 2 .varint (writeVarint (ofSigned entry.tag.toInt64))
    ++ field (entry.delta == 0) 3 .varint (writeVarint (ofSigned entry.delta))
    ++ field entry.value.isZero 4 .eight (Bytes.ofNatLittle 8 entry.value.bits.toNat)

/-- Reads the value of a field into an entry; of two values the later one counts. -/
def readField? (entry : Entry) (key : Key) (bytes : Bytes) : Option (Entry × Bytes) :=
  match key.field with
  | 1 =>
      if key.form = .sized then
        match readSized? bytes with
        | none => none
        | some (content, rest) => (Bytes.text? content).map fun id => ({ entry with id }, rest)
      else none
  | 2 =>
      if key.form = .varint then
        (readVarint? bytes).map fun (value, rest) =>
          ({ entry with tag := (toSigned value).toInt32 }, rest)
      else none
  | 3 =>
      if key.form = .varint then
        (readVarint? bytes).map fun (value, rest) => ({ entry with delta := toSigned value }, rest)
      else none
  | 4 =>
      if key.form = .eight then
        (takeBytes? 8 bytes).map fun (content, rest) =>
          ({ entry with value := ⟨UInt64.ofNat (Bytes.toNatLittle content)⟩ }, rest)
      else none
  | _ => (skipField? (depthLimit - 1) key bytes).map fun rest => (entry, rest)

/-- Reads fields up to the end; every field takes at least one byte of the fuel. -/
def readFields? : (fuel : Bytes) -> Entry -> Bytes -> Option Entry
  | _, entry, [] => some entry
  | [], _, _ :: _ => none
  | _ :: fuel, entry, byte :: rest =>
      match readKey? (byte :: rest) with
      | none => none
      | some (key, content) =>
          match entry.readField? key content with
          | none => none
          | some (next, after) => readFields? fuel next after

/-- Reads an entry from all of its bytes. -/
def read? (bytes : Bytes) : Option Entry :=
  readFields? bytes {} bytes

end Entry

/-- The bytes of a call with entries. -/
def writeCall (entries : List Entry) : Bytes :=
  entries.flatMap fun entry => Key.write ⟨1, .sized⟩ ++ Entry.sized entry.write

/--
Reads the entries of a call, `done` being those read so far, the last one
first; every field takes at least one byte of the fuel.
-/
def readEntries? : (fuel : Bytes) -> (done : List Entry) -> Bytes -> Option (List Entry)
  | _, done, [] => some done.reverse
  | [], _, _ :: _ => none
  | _ :: fuel, done, byte :: rest =>
      match readKey? (byte :: rest) with
      | none => none
      | some (key, content) =>
          if key.field = 1 then
            if key.form = .sized then
              match readSized? content with
              | none => none
              | some (body, after) =>
                  match Entry.read? body with
                  | none => none
                  | some entry => readEntries? fuel (entry :: done) after
            else none
          else
            match skipField? depthLimit key content with
            | none => none
            | some after => readEntries? fuel done after

/-- Reads a call from all of its bytes. -/
def readCall? (bytes : Bytes) : Option (List Entry) :=
  readEntries? bytes [] bytes

end Rpc
end Telemetry
