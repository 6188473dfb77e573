import Telemetry.Service

/-!
# Updates that go on at the same time

Any number of updates of one service are called at any time and take their
steps in any order.  An update applies its metrics one by one; then it copies
the store for the repository and waits until the repository has taken the copy;
and then it takes the lock on the snapshot, reads the store and replaces the
snapshot before it lets the lock go.  An update whose metrics end with an
invalid one goes to the snapshot at once, and so does one whose copy was not
taken.  A snapshot that cannot be written stays as it was.
-/

namespace Telemetry
namespace Service

/-- Where an update is on its way. -/
inductive Phase where
  /-- It is about to apply a metric, with others after it. -/
  | applying (metric : Metric) (rest : List Metric)
  /-- It has yet to copy the store for the repository. -/
  | copying
  /-- It waits until the repository has taken a copy of the store. -/
  | syncing (copy : List Metric)
  /-- It waits for the lock on the snapshot. -/
  | locking (result : Except UpdateError Unit)
  /-- It has the lock and is yet to read the store. -/
  | reading (result : Except UpdateError Unit)
  /-- It has read the store and is yet to replace the snapshot. -/
  | replacing (content : Bytes) (result : Except UpdateError Unit)
  /-- It is done with the snapshot and still has the lock. -/
  | releasing (result : Except UpdateError Unit)
  /-- It has returned. -/
  | done (result : Except UpdateError Unit)

namespace Phase

/-- How an update goes on once its result is known. -/
def afterSync (service : Service) (result : Except UpdateError Unit) : Phase :=
  match service.snapshot with
  | none => .done result
  | some _ => .locking result

/-- How an update goes on once it has applied all its metrics. -/
def afterMetrics (service : Service) : Phase :=
  match service.repository with
  | none => afterSync service (.ok ())
  | some _ => .copying

/-- How an update goes on that has metrics left to apply. -/
def ofMetrics (service : Service) : List Metric -> Phase
  | [] => afterMetrics service
  | metric :: rest => .applying metric rest

/-- Whether an update has returned. -/
def isDone : Phase -> Bool
  | .done _ => true
  | _ => false

/-- Whether an update has returned without an error. -/
def isSuccess : Phase -> Bool
  | .done (.ok ()) => true
  | _ => false

end Phase

/-- An update that has been called. -/
structure Call where
  /-- The metrics that it was called with. -/
  metrics : List Metric
  /-- The updates that it has made of the store. -/
  applied : List Update := []
  /-- Where it is on its way. -/
  phase : Phase

/-- Updates of one service that go on at the same time, with all that they share. -/
structure Interleaving where
  /-- The updates, in the order in which they were called. -/
  calls : List Call := []
  /-- The store. -/
  store : Store := {}
  /-- The updates that have copied the store for the repository, in that order. -/
  copied : List Nat := []
  /-- The copies that the repository was given, in the order in which it was done with them, each
  with the update that it came from. -/
  synced : List (Nat × List Metric) := []
  /-- The copy that the repository took last. -/
  replica : Option (List Metric) := none
  /-- The update that has the lock on the snapshot. -/
  lock : Option Nat := none
  /-- The content of the snapshot. -/
  snapshot : Option Bytes := none
  /-- How often the snapshot could not be written. -/
  unsaved : Nat := 0

namespace Interleaving

/-- What may happen. -/
inductive Event where
  /-- An update is called. -/
  | call (metrics : List Metric)
  /-- An update takes its next step. -/
  | step (index : Nat)
  /-- An update that has the lock cannot write the snapshot. -/
  | failSave (index : Nat)

/-- Calls an update. -/
def call (service : Service) (system : Interleaving) (metrics : List Metric) : Interleaving :=
  { system with
    calls := system.calls ++ [{ metrics, phase := .ofMetrics service metrics }] }

/-- Moves an update to a phase. -/
def move (system : Interleaving) (index : Nat) (call : Call) (phase : Phase) : Interleaving :=
  { system with calls := system.calls.set index { call with phase } }

/-- Applies the next metric of an update. -/
def applyNext (service : Service) (system : Interleaving) (index : Nat) (call : Call)
    (metric : Metric) (rest : List Metric) : Interleaving :=
  match metric.toNamedUpdate with
  | .error error => system.move index call (.afterSync service (.error (.invalid error)))
  | .ok update =>
      { system with store := system.store.apply update }.move index
        { call with applied := call.applied ++ [update] } (.ofMetrics service rest)

/-- Ends the call that gives a copy of the store to the repository. -/
def endSync (service : Service) (system : Interleaving) (index : Nat) (call : Call)
    (copy : List Metric) : Interleaving :=
  let given := { system with synced := system.synced ++ [(index, copy)] }
  match service.repository.bind fun repository => repository.sync system.synced.length with
  | none => { given with replica := some copy }.move index call (.afterSync service (.ok ()))
  | some error => given.move index call (.afterSync service (.error (.unsaved error)))

/-- The next step of an update, when it can take one. -/
def stepOf? (service : Service) (system : Interleaving) (index : Nat) (call : Call) :
    Option Interleaving :=
  match call.phase with
  | .applying metric rest => some (applyNext service system index call metric rest)
  | .copying =>
      some
        ({ system with copied := system.copied ++ [index] }.move index call
          (.syncing system.store.metrics))
  | .syncing copy => some (endSync service system index call copy)
  | .locking result =>
      if system.lock = none then
        some ({ system with lock := some index }.move index call (.reading result))
      else none
  | .reading result =>
      some (system.move index call (.replacing (Snapshot.content system.store.metrics) result))
  | .replacing content result =>
      some ({ system with snapshot := some content }.move index call (.releasing result))
  | .releasing result => some ({ system with lock := none }.move index call (.done result))
  | .done _ => none

/-- What becomes of an update that cannot write the snapshot. -/
def failSaveOf? (system : Interleaving) (index : Nat) (call : Call) : Option Interleaving :=
  match call.phase with
  | .reading result | .replacing _ result =>
      some ({ system with unsaved := system.unsaved + 1 }.move index call (.releasing result))
  | _ => none

/-- What an event leads to, when it can happen. -/
def step? (service : Service) (system : Interleaving) : Event -> Option Interleaving
  | .call metrics => some (system.call service metrics)
  | .step index => system.calls[index]?.bind (stepOf? service system index)
  | .failSave index => system.calls[index]?.bind (failSaveOf? system index)

/-- The system after events in some order; one that cannot happen is left out. -/
def run (service : Service) (system : Interleaving) (events : List Event) : Interleaving :=
  events.foldl (fun system event => (step? service system event).getD system) system

/-- The system before any update is called. -/
def start (store : Store) : Interleaving where
  store

/-- Whether every update has returned without an error. -/
def isComplete (system : Interleaving) : Bool :=
  system.calls.all fun call => call.phase.isSuccess

end Interleaving
end Service
end Telemetry
