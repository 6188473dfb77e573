import Telemetry.Proofs.Snapshot.Loop
import Telemetry.Proofs.Snapshot.Outcome

/-!
# A save loop saves at every multiple of its period

Where the snapshot can be written once, it can be written whatever is done, so
every save of a loop succeeds.  Then the events around a loop make one of its
runs, and all that every run keeps holds of them.
-/

namespace Telemetry
namespace SaveLoop

variable {start loop next : SaveLoop} {log : List (Nat × Deed)} {deed : Deed}

/-! ## Events -/

/-- How long an event takes. -/
def Event.span : Event -> Nat
  | .sleep span => span
  | _ => 0

/-- What an event does. -/
def Event.deed? : Event -> Option Deed
  | .update change => some (.updated change)
  | .save => some .saved
  | .remove => some .removed
  | .stop => some .asked
  | .sleep _ | .makeDirectory _ => none

/-- What events do, and when. -/
def entries : Nat -> List Event -> List (Nat × Deed)
  | _, [] => []
  | now, event :: rest =>
      (event.deed?.map fun deed => (now, deed)).toList ++ entries (now + event.span) rest

/-- Whether a loop does something itself. -/
def Deed.isOwn : Deed -> Bool
  | .ticked | .ended => true
  | _ => false

/-- The entries of a log that the loop did not make. -/
def others (log : List (Nat × Deed)) : List (Nat × Deed) :=
  log.filter fun entry => !entry.2.isOwn

/-- The snapshot of a loop can be written. -/
def IsWritable (loop : SaveLoop) : Prop :=
  ∃ location, Snapshot.CanWrite loop.files loop.path location

/-- A snapshot that was saved can be saved again. -/
theorem isWritable_of_save
    {files : Files.Tree} {metrics : List Metric}
    (saves : Snapshot.save loop.files loop.path metrics = (files, .ok ())) :
    IsWritable { loop with files } := by
  have succeeds : (Snapshot.saveWith (fun _ => false) loop.files loop.path metrics).2 = .ok () := by
    rw [← Snapshot.save, saves]
  obtain ⟨-, location, writable⟩ := (Snapshot.saveWith_eq_ok_iff ..).mp succeeds
  obtain ⟨-, found, -⟩ := Snapshot.save_of_canWrite writable metrics
  rw [Snapshot.saveOrKeep, saves] at found
  exact ⟨location, Snapshot.canWrite_of_locateFile found⟩

/-- Whatever is done, the snapshot can still be written. -/
theorem IsWritable.did
    (writable : loop.IsWritable)
    (step : Step loop deed next) :
    next.IsWritable := by
  cases step with
  | saved listing files saves => exact isWritable_of_save saves
  | ticked listing files serves isDue saves => exact isWritable_of_save saves
  | removed files removes =>
      obtain ⟨same, -, location, found⟩ := Files.Tree.remove_spec removes
      exact ⟨location, Snapshot.canWrite_of_locateFile
        (Files.Tree.locateFile_eq_ok_of_sameDirectories same found)⟩
  | _ => exact writable

theorem isWritable_of_runs
    (runs : Runs start log loop)
    (writable : start.IsWritable) :
    loop.IsWritable := by
  induction runs with
  | start => exact writable
  | slept => assumption
  | did _ step writable => exact writable.did step

/-- Where the snapshot can be written, writing it is a save. -/
theorem IsWritable.save_eq (writable : loop.IsWritable) :
    Snapshot.save loop.files loop.path (Store.Listing.byName loop.store).metrics =
      (loop.write.files, .ok ()) := by
  obtain ⟨location, writable⟩ := writable
  exact Prod.ext rfl (Snapshot.save_of_canWrite writable _).1

/-- Where the snapshot can be written, a tick that is due can come. -/
theorem IsWritable.step_tick
    (writable : loop.IsWritable)
    (serves : loop.hasEnded = false)
    (isDue : loop.due ≤ loop.now) :
    Step loop .ticked loop.tick :=
  .ticked (Store.Listing.byName loop.store) loop.write.files serves isDue writable.save_eq

/-- Where the snapshot can be written, removing it succeeds or finds nothing. -/
theorem IsWritable.step_remove (writable : loop.IsWritable) :
    Step loop .removed (loop.step .remove) := by
  obtain ⟨location, writable⟩ := writable
  change Step loop .removed { loop with
    files := (loop.files.remove loop.path).toOption.getD loop.files }
  cases removes : loop.files.remove loop.path with
  | ok files => exact .removed files removes
  | error error =>
      have missing : error = .notFound := by
        unfold Files.Tree.remove at removes
        rcases writable.locateFile_cases with found | notFound
        · rw [found] at removes
          dsimp only at removes
          split at removes
          next => cases removes; rfl
          next => cases removes
        · rw [notFound] at removes
          cases removes
          rfl
      exact .missed (missing ▸ removes)

/-- A run goes on where another one has come to. -/
theorem Runs.trans
    {middle : SaveLoop} {more : List (Nat × Deed)}
    (first : Runs start log middle)
    (second : Runs middle more loop) :
    Runs start (log ++ more) loop := by
  induction second with
  | start =>
      rw [List.append_nil]
      exact first
  | slept span _ sleeps runs => exact .slept span runs sleeps
  | did _ step runs =>
      rw [← List.append_assoc]
      exact .did runs step

/-- Time can go on up to an instant that is not past the next tick. -/
theorem runs_until
    {instant : Nat}
    (notStopping : loop.isStopping = false)
    (later : loop.now ≤ instant)
    (inTime : instant ≤ loop.due) :
    Runs loop [] { loop with now := instant } := by
  have sum : loop.now + (instant - loop.now) = instant := Nat.add_sub_cancel' later
  have runs : Runs loop [] { loop with now := loop.now + (instant - loop.now) } :=
    .slept _ .start (Or.inr ⟨notStopping, sum.symm ▸ inTime⟩)
  rwa [sum] at runs

/-- The ticks before an instant can be made, each when it is due. -/
theorem exists_runs_tickBefore
    (loop : SaveLoop) (instant : Nat)
    (writable : loop.IsWritable)
    (positive : 0 < loop.period)
    (serves : loop.hasEnded = false)
    (notStopping : loop.isStopping = false)
    (inTime : loop.now ≤ loop.due)
    (later : loop.now ≤ instant) :
    ∃ log, Runs loop log { loop.tickBefore instant with now := instant } ∧ others log = [] := by
  induction loop using tickBefore.induct instant with
  | case1 loop isDue inductionHypothesis =>
      -- Time goes on to the tick, the tick is made, and the others follow.
      let due := { loop with now := loop.due }
      have writableDue : due.IsWritable := writable
      have ticks := writableDue.step_tick serves (Nat.le_refl _)
      have inTimeAfter : due.tick.now ≤ due.tick.due := by
        change loop.due ≤ due.nextDue
        rw [nextDue_of_le (Nat.le_refl _)]
        exact Nat.le_add_right ..
      obtain ⟨log, runs, own⟩ := inductionHypothesis (writableDue.did ticks) positive serves
        notStopping inTimeAfter (Nat.le_of_lt isDue.1)
      refine ⟨(loop.due, .ticked) :: log, ?_, own⟩
      rw [tickBefore, if_pos isDue]
      exact ((runs_until notStopping inTime (Nat.le_refl _)).did ticks).trans runs
  | case2 loop notDue =>
      refine ⟨[], ?_, rfl⟩
      rw [tickBefore, if_neg notDue]
      exact runs_until notStopping later
        (Nat.le_of_not_lt fun isDue => notDue ⟨isDue, positive⟩)

/-- Time can go on as it does. -/
theorem exists_runs_sleep
    (span : Nat)
    (writable : loop.IsWritable)
    (positive : 0 < loop.period)
    (inTime : loop.hasEnded = false -> loop.now ≤ loop.due) :
    ∃ log, Runs loop log (loop.sleep span) ∧ others log = [] ∧
      (loop.sleep span).now = loop.now + span := by
  unfold sleep
  split
  next none =>
    rw [none]
    exact ⟨[], .start, rfl, rfl⟩
  next =>
    split
    next hasEnded => exact ⟨[], .slept span .start (Or.inl hasEnded), rfl, rfl⟩
    next serves =>
      have serves := Bool.eq_false_of_not_eq_true serves
      split
      next stops =>
        have stops := stops.resolve_right (Nat.ne_of_gt positive)
        exact ⟨[(loop.now, .ended)],
          .slept span (.did .start (.ended stops serves)) (Or.inl rfl), rfl, rfl⟩
      next goesOn =>
        have notStopping := Bool.eq_false_of_not_eq_true (not_or.mp goesOn).1
        obtain ⟨log, runs, own⟩ := exists_runs_tickBefore loop (loop.now + span) writable positive
          serves notStopping (inTime serves) (Nat.le_add_right ..)
        exact ⟨log, runs, own, rfl⟩

/-- Every event but making a directory can happen as it does. -/
theorem exists_runs_step
    {event : Event}
    (writable : loop.IsWritable)
    (positive : 0 < loop.period)
    (inTime : loop.hasEnded = false -> loop.now ≤ loop.due)
    (known : ∀ path, event ≠ .makeDirectory path) :
    ∃ log, Runs loop log (loop.step event) ∧
      others log = (event.deed?.map fun deed => (loop.now, deed)).toList ∧
      (loop.step event).now = loop.now + event.span := by
  have did {next : SaveLoop} {deed : Deed} (step : Step loop deed next) :
      Runs loop [(loop.now, deed)] next := .did .start step
  cases event with
  | sleep span => exact exists_runs_sleep span writable positive inTime
  | update change => exact ⟨_, did (.updated change), rfl, rfl⟩
  | save => exact ⟨_, did (.saved (Store.Listing.byName loop.store) _ writable.save_eq), rfl, rfl⟩
  | remove => exact ⟨_, did writable.step_remove, rfl, rfl⟩
  | makeDirectory path => exact absurd rfl (known path)
  | stop => exact ⟨_, did .asked, rfl, rfl⟩

section Start

variable (path : String) (period leeway : Nat) (store : Store) (files : Files.Tree)

/-- All events but making a directory can happen one after the other. -/
theorem exists_runs_run
    (events : List Event)
    (writable : IsWritable { path, period, leeway, store, files })
    (positive : 0 < period)
    (runs : Runs { path, period, leeway, store, files } log loop)
    (known : ∀ other, .makeDirectory other ∉ events) :
    ∃ more, Runs loop more (loop.run events) ∧ others more = entries loop.now events ∧
      (loop.run events).now = loop.now + (events.map Event.span).sum := by
  induction events generalizing log loop with
  | nil => exact ⟨[], .start, rfl, rfl⟩
  | cons event rest inductionHypothesis =>
      have positiveNow : 0 < loop.period := (onTime_of_runs runs).period.symm ▸ positive
      obtain ⟨first, stepRuns, did, now⟩ := exists_runs_step (isWritable_of_runs runs writable)
        positiveNow (le_due_of_runs runs)
        (fun other same => known other (same ▸ List.mem_cons_self))
      obtain ⟨more, restRuns, didRest, later⟩ := inductionHypothesis (runs.trans stepRuns)
        (fun other present => known other (List.mem_cons_of_mem _ present))
      refine ⟨first ++ more, stepRuns.trans restRuns, ?_, ?_⟩
      · rw [others, List.filter_append, ← others, ← others, did, didRest, now]
        rfl
      · rw [List.map_cons, List.sum_cons, ← Nat.add_assoc, ← now]
        exact later

/--
In every run in which all saves succeed, the loop saves at exactly the multiples of its period, each
time the store as it was then.  What is at the path of the snapshot is the store as of the latest
tick or save, or nothing since it was removed.  The loop ends as soon as it was asked to stop and
never saves again.  Every sequence of updates, saves, removals, sleeps and stops is such a run,
wherever the snapshot can be written.
-/
theorem saves_at_every_multiple_of_its_period (positive : 0 < period) :
    let start : SaveLoop := { path, period, leeway, store, files }
    (∀ log loop, Runs start log loop ->
        Told start log loop ∧ OnTime start log loop ∧ EndsWhenAsked log loop) ∧
      ∀ events, start.IsWritable -> (∀ other, .makeDirectory other ∉ events) ->
        ∃ log, Runs start log (start.run events) ∧ others log = entries 0 events ∧
          (start.run events).now = (events.map Event.span).sum := by
  refine ⟨fun log loop runs =>
    ⟨told_of_runs runs, onTime_of_runs runs, endsWhenAsked_of_runs runs rfl rfl⟩,
    fun events writable known => ?_⟩
  obtain ⟨log, runs, did, now⟩ :=
    exists_runs_run path period leeway store files events writable positive .start known
  exact ⟨log, runs, did, now.trans (Nat.zero_add _)⟩

end Start

theorem saves_at_ten_twenty_and_thirty :
    let start : SaveLoop := { path := "s.json", period := 10 }
    let events : List Event :=
      [.update (.counter "hits" 1), .sleep 25, .remove, .sleep 10, .stop, .sleep 100]
    0 < 10 ∧
      (∃ log, Runs start log (start.run events) ∧ others log = entries 0 events ∧
        Told start log (start.run events) ∧ OnTime start log (start.run events) ∧
        EndsWhenAsked log (start.run events)) ∧
      (start.run events).saves.map Prod.fst = [30, 20, 10] ∧
      (start.run events).hasEnded = true := by
  intro start events
  obtain ⟨keeps, happens⟩ :=
    saves_at_every_multiple_of_its_period "s.json" 10 5 {} .empty (by decide)
  have writable : start.IsWritable :=
    ⟨["home", "s.json"], Snapshot.canWrite_of_locateFile (by decide +kernel)⟩
  obtain ⟨log, runs, did, -⟩ := happens events writable (by simp [events])
  exact ⟨by decide, ⟨log, runs, did, keeps log _ runs⟩, by decide +kernel, by decide +kernel⟩

end SaveLoop
end Telemetry
