import Telemetry.Number.Format
import Telemetry.Number.Reading

/-!
# Metrics

A gauge holds the last value it was set to, a counter the sum of the deltas
added to it.  A metric in transit names its type by a text of any kind and may
lack its value, so it becomes an update of a store only after a check.
-/

namespace Telemetry

/-- The two kinds of metric. -/
inductive MetricKind where
  /-- A value that is replaced. -/
  | gauge
  /-- A sum that is added to. -/
  | counter
deriving DecidableEq

namespace MetricKind

/-- The name of a kind, as requests and metrics spell it. -/
def name : MetricKind -> String
  | .gauge => "gauge"
  | .counter => "counter"

/-- The kind that a type text names, if it names one. -/
def ofName? (text : String) : Option MetricKind :=
  if text = "gauge" then some .gauge
  else if text = "counter" then some .counter
  else none

@[simp] theorem ofName?_name (kind : MetricKind) : ofName? kind.name = some kind := by
  cases kind <;> decide

theorem ofName?_eq_some_iff {text : String} {kind : MetricKind} :
    ofName? text = some kind ↔ text = kind.name := by
  constructor
  · intro named
    unfold ofName? at named
    split at named
    · cases named
      assumption
    · split at named
      · cases named
        assumption
      · cases named
  · rintro rfl
    exact ofName?_name kind

end MetricKind

/-- A metric in transit. -/
structure Metric where
  /-- The name. -/
  id : String
  /-- The text that names the kind. -/
  type : String
  /-- What is added to a counter. -/
  delta : Option Int64
  /-- What a gauge is set to. -/
  value : Option Binary64
deriving DecidableEq

/-- A change of a store. -/
inductive Update where
  /-- Sets a gauge. -/
  | gauge (name : String) (value : Binary64)
  /-- Adds to a counter. -/
  | counter (name : String) (delta : Int64)
deriving DecidableEq

/-- Why a metric is no update. -/
inductive MetricError where
  /-- The type names no kind. -/
  | unknownType (type : String)
  /-- The text of a value is no number of its kind. -/
  | invalidValue (kind : MetricKind) (raw : String)
  /-- A gauge without a value. -/
  | missingValue (id : String)
  /-- A counter without a delta. -/
  | missingDelta (id : String)
  /-- A metric with an empty name. -/
  | missingId
deriving DecidableEq

/-- The wording of a refusal. -/
def MetricError.message : MetricError -> String
  | .unknownType type => "unknown metric type: " ++ type
  | .invalidValue kind raw => "invalid " ++ kind.name ++ " value: " ++ raw
  | .missingValue id => "missing value for gauge " ++ id
  | .missingDelta id => "missing delta for counter " ++ id
  | .missingId => "metric id is required"

namespace Update

/-- The name that an update touches. -/
def name : Update -> String
  | .gauge name _ => name
  | .counter name _ => name

/-- The metric that carries an update. -/
def toMetric : Update -> Metric
  | .gauge name value => ⟨name, MetricKind.gauge.name, none, some value⟩
  | .counter name delta => ⟨name, MetricKind.counter.name, some delta, none⟩

/-- Reads an update from the texts of its type, name and value, the type first. -/
def parse (type name raw : String) : Except MetricError Update :=
  match MetricKind.ofName? type with
  | none => .error (.unknownType type)
  | some .gauge =>
      match Binary64.read? raw with
      | some value => .ok (.gauge name value)
      | none => .error (.invalidValue .gauge raw)
  | some .counter =>
      match readInt64? raw.toList with
      | some delta => .ok (.counter name (Int64.ofInt delta))
      | none => .error (.invalidValue .counter raw)

/-- The text of an update's value: a plain decimal or a whole number. -/
def valueText : Update -> String
  | .gauge _ value => value.plainText
  | .counter _ delta => toString delta.toInt

end Update

namespace Metric

/-- The kind that a metric's type names. -/
def kind (metric : Metric) : Except MetricError MetricKind :=
  match MetricKind.ofName? metric.type with
  | some kind => .ok kind
  | none => .error (.unknownType metric.type)

/-- The update that a metric carries: the value for a gauge, the delta for a counter. -/
def toUpdate (metric : Metric) : Except MetricError Update :=
  match MetricKind.ofName? metric.type with
  | none => .error (.unknownType metric.type)
  | some .gauge =>
      match metric.value with
      | some value => .ok (.gauge metric.id value)
      | none => .error (.missingValue metric.id)
  | some .counter =>
      match metric.delta with
      | some delta => .ok (.counter metric.id delta)
      | none => .error (.missingDelta metric.id)

/-- The update of a metric that has to have a name. -/
def toNamedUpdate (metric : Metric) : Except MetricError Update :=
  if metric.id = "" then .error .missingId else metric.toUpdate

@[simp] theorem toUpdate_toMetric (update : Update) : update.toMetric.toUpdate = .ok update := by
  cases update <;> simp [Update.toMetric, toUpdate]

end Metric
end Telemetry
