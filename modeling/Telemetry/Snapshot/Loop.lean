import Telemetry.Snapshot

/-!
# Snapshots at intervals

A loop saves its store once a period has passed since its start, and again
after every further period.  A tick that is taken late moves those that follow.
A save that is due at the very end of a sleep is left for the next one.  A loop
that is asked to stop ends when time goes on, and so does one whose period is
empty.
-/

namespace Telemetry

/-- A loop that saves a store, with the files around it. -/
structure SaveLoop where
  /-- The path of the snapshot. -/
  path : String
  /-- The time between two saves. -/
  period : Nat
  /-- How late a tick may be taken without moving those that follow. -/
  leeway : Nat := 5
  /-- The present time. -/
  now : Nat := 0
  /-- When the next save is due. -/
  due : Nat := period
  /-- Whether the loop was asked to stop. -/
  isStopping : Bool := false
  /-- Whether the loop has ended. -/
  hasEnded : Bool := false
  /-- The store. -/
  store : Store := {}
  /-- The files. -/
  files : Files.Tree := .empty
  /-- When the loop saved and what, the last save in front. -/
  saves : List (Nat × Store) := []

namespace SaveLoop

/-- What happens around a loop. -/
inductive Event where
  /-- Time goes on. -/
  | sleep (span : Nat)
  /-- The store is updated. -/
  | update (update : Update)
  /-- The store is saved at once. -/
  | save
  /-- The snapshot is removed. -/
  | remove
  /-- A directory is made. -/
  | makeDirectory (path : String)
  /-- The loop is asked to stop. -/
  | stop

/-- Writes the store to its place. -/
def write (loop : SaveLoop) : SaveLoop :=
  { loop with files := Snapshot.saveOrKeep loop.files loop.path loop.store.metrics }

/-- When the tick after the one that is due now or was due before will be due. -/
def nextDue (loop : SaveLoop) : Nat :=
  if loop.due + loop.leeway < loop.now then loop.now + loop.period else loop.due + loop.period

theorem nextDue_of_le
    {loop : SaveLoop}
    (inTime : loop.now ≤ loop.due) :
    loop.nextDue = loop.due + loop.period :=
  if_neg (Nat.not_lt_of_le (Nat.le_add_right_of_le inTime))

/-- Makes the save that is due. -/
def tick (loop : SaveLoop) : SaveLoop :=
  { loop.write with
    due := loop.nextDue
    saves := (loop.now, loop.store) :: loop.saves }

/-- Makes the saves that are due before an instant, each when it is due. -/
def tickBefore (loop : SaveLoop) (instant : Nat) : SaveLoop :=
  if loop.due < instant ∧ 0 < loop.period then
    { loop with now := loop.due }.tick.tickBefore instant
  else loop
termination_by instant - loop.due
decreasing_by
  have inTime : { loop with now := loop.due }.now ≤ loop.due := Nat.le_refl _
  simp only [tick, nextDue_of_le inTime]
  omega

/-- Lets time go on. -/
def sleep (loop : SaveLoop) (span : Nat) : SaveLoop :=
  let wake := loop.now + span
  if span = 0 then loop
  else if loop.hasEnded then { loop with now := wake }
  else if loop.isStopping ∨ loop.period = 0 then { loop with now := wake, hasEnded := true }
  else { loop.tickBefore wake with now := wake }

/-- What the loop and its surroundings are after an event. -/
def step (loop : SaveLoop) : Event -> SaveLoop
  | .sleep span => loop.sleep span
  | .update update => { loop with store := loop.store.apply update }
  | .save => loop.write
  | .remove => { loop with files := (loop.files.remove loop.path).toOption.getD loop.files }
  | .makeDirectory path => { loop with files := (loop.files.makeDirectory path).1 }
  | .stop => { loop with isStopping := true }

/-- What they are after a run of events. -/
def run (loop : SaveLoop) (events : List Event) : SaveLoop :=
  events.foldl step loop

end SaveLoop
end Telemetry
