import Telemetry.Snapshot

/-!
# Callers that save one snapshot

Callers take a lock in turn, and a caller that has it starts a writer, which
reads the store and replaces the snapshot.  The caller waits for its writer and
then lets the lock go.  A caller may vanish wherever it waits: its lock is then
free, but a writer that it has started goes on.
-/

namespace Telemetry
namespace Snapshot

/-- Where a caller is on its way. -/
inductive Caller where
  /-- It waits for the lock. -/
  | waiting
  /-- It has the lock and waits for a writer. -/
  | saving (writer : Nat)
  /-- It has returned. -/
  | done
  /-- It has vanished. -/
  | vanished
deriving DecidableEq

/-- Where a writer is on its way. -/
inductive Writer where
  /-- It is yet to read the store. -/
  | started
  /-- It has read the store and is yet to replace the snapshot. -/
  | filled (store : Store)
  /-- It has replaced the snapshot, or failed to. -/
  | finished

/-- Whether a writer is at work. -/
def Writer.isAtWork : Writer -> Bool
  | .started => true
  | .filled _ => true
  | .finished => false

/-- Callers that save one snapshot, with all that they share. -/
structure Sharing where
  /-- The path of the snapshot. -/
  path : String
  /-- The callers. -/
  callers : List Caller := []
  /-- The writers, in the order in which they were started. -/
  writers : List Writer := []
  /-- The caller that has the lock. -/
  lock : Option Nat := none
  /-- The store. -/
  store : Store := {}
  /-- The files. -/
  files : Files.Tree := .empty
  /-- The writers that have read the store, in that order. -/
  reads : List Nat := []
  /-- The writers that have replaced the snapshot, in that order. -/
  replaced : List Nat := []
  /-- The writers that were at work when their callers vanished. -/
  deserted : List Nat := []

namespace Sharing

/-- What may happen. -/
inductive Event where
  /-- A caller comes. -/
  | call
  /-- A caller takes the lock and starts a writer. -/
  | acquire (caller : Nat)
  /-- A writer reads the store. -/
  | read (writer : Nat)
  /-- A writer replaces the snapshot, on a device that may fail. -/
  | replace (writer : Nat) (fails : Stage -> Bool)
  /-- A caller whose writer is done lets the lock go and returns. -/
  | release (caller : Nat)
  /-- A caller vanishes. -/
  | vanish (caller : Nat)
  /-- The store is updated. -/
  | update (update : Update)

/-- The lock after a caller has gone. -/
def lockWithout (sharing : Sharing) (caller : Nat) : Option Nat :=
  if sharing.lock = some caller then none else sharing.lock

/-- Whether a writer has done its work. -/
def hasFinished (sharing : Sharing) (writer : Nat) : Bool :=
  sharing.writers[writer]?.any fun writer => !writer.isAtWork

/-- Ends a writer that has read the store, with the files that it leaves. -/
def finish (sharing : Sharing) (fails : Stage -> Bool) (writer : Nat) (store : Store) : Sharing :=
  let saved := saveWith fails sharing.files sharing.path store.metrics
  { sharing with
    writers := sharing.writers.set writer .finished
    files := saved.1
    replaced := sharing.replaced ++ if saved.2.isOk then [writer] else [] }

/-- Takes a caller away that waits for its writer. -/
def desert (sharing : Sharing) (caller writer : Nat) : Sharing :=
  { sharing with
    callers := sharing.callers.set caller .vanished
    lock := sharing.lockWithout caller
    deserted := sharing.deserted ++ if sharing.hasFinished writer then [] else [writer] }

/-- What an event leads to, when it can happen. -/
def step? (sharing : Sharing) : Event -> Option Sharing
  | .call => some { sharing with callers := sharing.callers ++ [.waiting] }
  | .acquire caller =>
      if sharing.callers[caller]? = some .waiting ∧ sharing.lock = none then
        some
          { sharing with
            callers := sharing.callers.set caller (.saving sharing.writers.length)
            writers := sharing.writers ++ [.started]
            lock := some caller }
      else none
  | .read writer =>
      match sharing.writers[writer]? with
      | some .started =>
          some
            { sharing with
              writers := sharing.writers.set writer (.filled sharing.store)
              reads := sharing.reads ++ [writer] }
      | _ => none
  | .replace writer fails =>
      match sharing.writers[writer]? with
      | some (.filled store) => some (sharing.finish fails writer store)
      | _ => none
  | .release caller =>
      match sharing.callers[caller]? with
      | some (.saving writer) =>
          if sharing.hasFinished writer then
            some
              { sharing with
                callers := sharing.callers.set caller .done
                lock := sharing.lockWithout caller }
          else none
      | _ => none
  | .vanish caller =>
      match sharing.callers[caller]? with
      | some .waiting => some { sharing with callers := sharing.callers.set caller .vanished }
      | some (.saving writer) => some (sharing.desert caller writer)
      | _ => none
  | .update update => some { sharing with store := sharing.store.apply update }

/-- The state after events; one that cannot happen is left out. -/
def run (sharing : Sharing) (events : List Event) : Sharing :=
  events.foldl (fun sharing event => (sharing.step? event).getD sharing) sharing

/-- How many writers are at work. -/
def writersAtWork (sharing : Sharing) : Nat :=
  sharing.writers.countP Writer.isAtWork

end Sharing
end Snapshot
end Telemetry
