import Telemetry.Json.Record
import Telemetry.Json.Writer
import Telemetry.Metric

/-!
# Metrics as JSON

A metric is an object with the members `id`, `type`, `delta` and `value`; an
absent delta or value is left out when written, and may be missing or `null`
when read.
-/

namespace Telemetry
namespace Metric

/-- The members of a metric that are written. -/
def members (metric : Metric) : List (String × String) :=
  [("id", Json.textText metric.id), ("type", Json.textText metric.type)]
    ++ (metric.delta.map fun delta => ("delta", toString delta.toInt)).toList
    ++ (metric.value.map fun value => ("value", Json.numberText value)).toList

/-- The JSON text of a metric. -/
def json (metric : Metric) : String :=
  Json.objectText metric.members

/-- The JSON text of a list of metrics. -/
def listJson (metrics : List Metric) : String :=
  Json.listText (metrics.map json)

/-- The members of a metric that have been read so far. -/
structure Draft where
  /-- The name, when given. -/
  id : Option String := none
  /-- The type, when given. -/
  type : Option String := none
  /-- The delta, when given; `null` is given as none. -/
  delta : Option (Option Int64) := none
  /-- The value, when given; `null` is given as none. -/
  value : Option (Option Binary64) := none

/-- The JSON shape of a metric. -/
def shape : Json.Shape Draft Metric where
  name := "Metric"
  fields :=
    [Json.Field.of "id" false Json.string Draft.id fun draft id => { draft with id := some id },
      Json.Field.of "type" false Json.string Draft.type
        fun draft type => { draft with type := some type },
      Json.Field.of "delta" true (Json.optional Json.int64) Draft.delta
        fun draft delta => { draft with delta := some delta },
      Json.Field.of "value" true (Json.optional Json.real) Draft.value
        fun draft value => { draft with value := some value }]
  blank := {}
  complete := fun draft =>
    match Json.require "id" draft.id, Json.require "type" draft.type with
    | .error fault, _ => .error fault
    | .ok _, .error fault => .error fault
    | .ok id, .ok type => .ok ⟨id, type, draft.delta.getD none, draft.value.getD none⟩

/-- Reads a metric from a whole JSON text. -/
def ofJson (text : Bytes) : Except Json.Fault Metric :=
  Json.decode shape.read text

/-- Reads a list of metrics from a whole JSON text. -/
def listOfJson (text : Bytes) : Except Json.Fault (List Metric) :=
  Json.decode (Json.list shape.read) text

end Metric
end Telemetry
