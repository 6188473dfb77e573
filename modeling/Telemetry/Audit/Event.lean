import Telemetry.Json.Record
import Telemetry.Json.Writer

/-!
# Audit events

An event says when which metrics were changed from which address.
-/

namespace Telemetry
namespace Audit

/-- A change of metrics. -/
structure Event where
  /-- The time in seconds since 1970. -/
  ts : Int64
  /-- The names of the metrics, in the order of the request. -/
  metrics : List String
  /-- The address that the change came from. -/
  ipAddress : String
deriving DecidableEq

namespace Event

/-- The JSON text of an event. -/
def json (event : Event) : String :=
  Json.objectText
    [("ts", toString event.ts.toInt),
      ("metrics", Json.listText (event.metrics.map Json.textText)),
      ("ip_address", Json.textText event.ipAddress)]

/-- The members of an event that have been read so far. -/
structure Draft where
  /-- The time, when given. -/
  ts : Option Int64 := none
  /-- The names, when given. -/
  metrics : Option (List String) := none
  /-- The address, when given. -/
  ipAddress : Option String := none

/-- The JSON shape of an event. -/
def shape : Json.Shape Draft Event where
  name := "AuditEvent"
  fields :=
    [Json.Field.of "ts" false Json.int64 Draft.ts fun draft ts => { draft with ts := some ts },
      Json.Field.of "metrics" false (Json.list Json.string) Draft.metrics
        fun draft metrics => { draft with metrics := some metrics },
      Json.Field.of "ip_address" false Json.string Draft.ipAddress
        fun draft ipAddress => { draft with ipAddress := some ipAddress }]
  blank := {}
  complete := fun draft =>
    match Json.require "ts" draft.ts, Json.require "metrics" draft.metrics,
        Json.require "ip_address" draft.ipAddress with
    | .ok ts, .ok metrics, .ok ipAddress => .ok ⟨ts, metrics, ipAddress⟩
    | .error fault, _, _ => .error fault
    | _, .error fault, _ => .error fault
    | _, _, .error fault => .error fault

/-- Reads an event from a whole JSON text. -/
def ofJson (text : Bytes) : Except Json.Fault Event :=
  Json.decode shape.read text

end Event
end Audit
end Telemetry
