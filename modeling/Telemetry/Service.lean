import Telemetry.Audit.Publisher
import Telemetry.Repository
import Telemetry.Snapshot

/-!
# Updates of a store

An update is a list of metrics that are applied one by one up to the first
invalid one.  Afterwards the whole store goes to the repository, the snapshot
is written whatever happened, and a complete update is announced to the audit
sinks.
-/

namespace Telemetry

/-- Why an update was not done completely. -/
inductive UpdateError where
  /-- A metric is no update. -/
  | invalid (error : MetricError)
  /-- The repository failed. -/
  | unsaved (error : RepositoryError)

/-- The wording of a failed update. -/
def UpdateError.message : UpdateError -> String
  | .invalid error => error.message
  | .unsaved _ => "failed to save metrics"

/-- Where updates go besides the store. -/
structure Service where
  /-- The repository that keeps a copy of the store. -/
  repository : Option Repository := none
  /-- The path of the snapshot that is written with every update. -/
  snapshot : Option String := none
  /-- The audit sinks. -/
  publisher : Audit.Publisher := {}

namespace Service

/-- What updates change. -/
structure State where
  /-- The store. -/
  store : Store := {}
  /-- The files and addresses. -/
  world : World := {}
  /-- The metrics of every call that took over the store, failed calls included. -/
  synced : List (List Metric) := []
  /-- The number of calls that asked whether the database is there. -/
  pings : Nat := 0

/-- Applies metrics in order and stops at the first that is no update of a named metric. -/
def applyMetrics (store : Store) : List Metric -> Store × Except MetricError Unit
  | [] => (store, .ok ())
  | metric :: rest =>
      match metric.toNamedUpdate with
      | .error error => (store, .error error)
      | .ok update => applyMetrics (store.apply update) rest

/-- Gives the whole store to the repository. -/
def sync (service : Service) (state : State) : State × Except RepositoryError Unit :=
  match service.repository with
  | none => (state, .ok ())
  | some repository =>
      let called := { state with synced := state.synced ++ [state.store.metrics] }
      match repository.sync state.synced.length with
      | none => (called, .ok ())
      | some error => (called, .error error)

/-- Applies metrics and gives the store to the repository when all were applied. -/
def applyAndSync (service : Service) (state : State) (metrics : List Metric) :
    State × Except UpdateError Unit :=
  match applyMetrics state.store metrics with
  | (store, .error error) => ({ state with store }, .error (.invalid error))
  | (store, .ok ()) =>
      match service.sync { state with store } with
      | (synced, .error error) => (synced, .error (.unsaved error))
      | (synced, .ok ()) => (synced, .ok ())

/-- Writes the snapshot, when there is one to write. -/
def saveSnapshot (service : Service) (state : State) : State :=
  match service.snapshot with
  | none => state
  | some path =>
      { state with
        world :=
          { state.world with
            files := Snapshot.saveOrKeep state.world.files path state.store.metrics } }

/-- Announces a change to the audit sinks, when there are any. -/
def announce (service : Service) (state : State) (event : Audit.Event) : State :=
  if service.publisher.hasSinks then
    { state with world := service.publisher.notify state.world event }
  else state

/-- Makes an update that came from an address at a time. -/
def update (service : Service) (state : State) (now : Int64) (metrics : List Metric)
    (address : String) : State × Except UpdateError Unit :=
  match service.applyAndSync state metrics with
  | (changed, .error error) => (service.saveSnapshot changed, .error error)
  | (changed, .ok ()) =>
      (service.announce (service.saveSnapshot changed)
        ⟨now, metrics.map Metric.id, address⟩, .ok ())

/-- Asks the repository, if there is one, whether the database is there. -/
def ping (service : Service) (state : State) : Option (State × Option RepositoryError) :=
  service.repository.map fun repository =>
    ({ state with pings := state.pings + 1 }, repository.ping state.pings)

end Service
end Telemetry
