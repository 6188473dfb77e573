import Std.Data.ExtTreeMap
import Telemetry.Metric

/-!
# The store of current values

A store keeps the gauges and the counters apart, so that one name may be both.
Setting a gauge replaces its value; adding to a counter wraps around at
sixty-four bits.
-/

namespace Telemetry

/-- The current values of all metrics. -/
structure Store where
  /-- The gauges by name. -/
  gauges : Std.ExtTreeMap String Binary64 := ∅
  /-- The counters by name. -/
  counters : Std.ExtTreeMap String Int64 := ∅

namespace Store

/-- The store without metrics. -/
def empty : Store := {}

/-- The value of a gauge. -/
def gauge? (store : Store) (name : String) : Option Binary64 :=
  store.gauges[name]?

/-- The value of a counter. -/
def counter? (store : Store) (name : String) : Option Int64 :=
  store.counters[name]?

/-- Sets a gauge. -/
def setGauge (store : Store) (name : String) (value : Binary64) : Store :=
  { store with gauges := store.gauges.insert name value }

/-- Adds to a counter, which starts at zero. -/
def addCounter (store : Store) (name : String) (delta : Int64) : Store :=
  { store with
    counters := store.counters.insert name ((store.counter? name).getD 0 + delta) }

/-- Makes one update. -/
def apply (store : Store) : Update -> Store
  | .gauge name value => store.setGauge name value
  | .counter name delta => store.addCounter name delta

/-- Makes updates in order. -/
def applyAll (store : Store) (updates : List Update) : Store :=
  updates.foldl apply store

/-- The updates that make up the store, gauges before counters, each in the order of names. -/
def updates (store : Store) : List Update :=
  (store.gauges.toList.map fun entry => .gauge entry.1 entry.2)
    ++ store.counters.toList.map fun entry => .counter entry.1 entry.2

/-- All metrics, gauges before counters, each in the order of names. -/
def metrics (store : Store) : List Metric :=
  store.updates.map Update.toMetric

/-- The number of metrics. -/
def size (store : Store) : Nat :=
  store.gauges.size + store.counters.size

/-- Whether the store has no metrics. -/
def isEmpty (store : Store) : Bool :=
  store.gauges.isEmpty && store.counters.isEmpty

/-- Whether a row comes before or with another: by name, then by text. -/
def rowAtMost (left right : String × String) : Bool :=
  left.1 < right.1 || (left.1 == right.1 && left.2 ≤ right.2)

/-- The rows of names and value texts, sorted by name and then by text. -/
def rows (store : Store) : List (String × String) :=
  (store.updates.map fun update => (update.name, update.valueText)).mergeSort rowAtMost

/-- The current value of a metric of a given kind and name, as an update. -/
def find? (store : Store) (kind : MetricKind) (name : String) : Option Update :=
  match kind with
  | .gauge => (store.gauge? name).map fun value => .gauge name value
  | .counter => (store.counter? name).map fun value => .counter name value

@[simp] theorem gauge?_setGauge (store : Store) (name other : String) (value : Binary64) :
    (store.setGauge name value).gauge? other =
      if name = other then some value else store.gauge? other := by
  simp [gauge?, setGauge, Std.ExtTreeMap.getElem?_insert]

@[simp] theorem counter?_setGauge (store : Store) (name other : String) (value : Binary64) :
    (store.setGauge name value).counter? other = store.counter? other := rfl

@[simp] theorem gauge?_addCounter (store : Store) (name other : String) (delta : Int64) :
    (store.addCounter name delta).gauge? other = store.gauge? other := rfl

@[simp] theorem counter?_addCounter (store : Store) (name other : String) (delta : Int64) :
    (store.addCounter name delta).counter? other =
      if name = other then some ((store.counter? name).getD 0 + delta)
      else store.counter? other := by
  simp [counter?, addCounter, Std.ExtTreeMap.getElem?_insert]

end Store
end Telemetry
