import Mathlib.Data.List.Perm.Basic
import Telemetry.Proofs.Dispatch.Moves
import Telemetry.Proofs.Entries

/-!
# Sends and workers are neither lost nor made up

Every send that was started has ended or belongs to one worker, and as long as
the queue takes batches a worker is gone only because it broke down.
-/

namespace Telemetry
namespace Dispatch

variable {batch : Type}

/-! ## Counts -/

/-- Whether a worker has stopped or broken down. -/
def Worker.isGone : Worker batch -> Bool
  | .gone => true
  | _ => false

/-- The batch that a worker sends, if it does. -/
def Worker.job? : Worker batch -> Option (Job batch)
  | .sending job => some job
  | _ => none

namespace State

/-- How many workers are gone. -/
def goneCount (state : State batch) : Nat :=
  state.workers.countP Worker.isGone

/-- How many workers have broken down. -/
def crashCount (outcome : Job batch -> Outcome) (state : State batch) : Nat :=
  state.ended.countP fun job => outcome job = .crashed

/-- Every worker has broken down. -/
def AllCrashed (outcome : Job batch -> Outcome) (state : State batch) : Prop :=
  state.crashCount outcome = state.workers.length

theorem inProgress_eq (state : State batch) :
    state.inProgress = state.workers.filterMap Worker.job? := by
  unfold inProgress
  apply List.filterMap_congr
  intro worker _
  cases worker <;> rfl

theorem mem_inProgress_iff (state : State batch) (job : Job batch) :
    job ∈ state.inProgress ↔ .sending job ∈ state.workers := by
  rw [state.inProgress_eq, List.mem_filterMap]
  constructor
  · rintro ⟨worker, present, isSending⟩
    cases worker <;> cases isSending
    exact present
  · exact fun present => ⟨_, present, rfl⟩

theorem goneCount_le (state : State batch) : state.goneCount ≤ state.workers.length :=
  List.countP_le_length

theorem isDeserted_iff (state : State batch) :
    state.isDeserted = true ↔ state.goneCount = state.workers.length := by
  unfold isDeserted goneCount
  rw [List.countP_eq_length, List.all_eq_true]
  apply forall_congr'
  intro worker
  cases worker <;> rfl

end State

namespace State

variable {state after : State batch} {index : Nat} {old new : Worker batch}

/-- A worker that changes takes its send along. -/
theorem inProgress_set
    (found : state.workers[index]? = some old)
    (workers : after.workers = state.workers.set index new) :
    (after.inProgress ++ old.job?.toList).Perm (state.inProgress ++ new.job?.toList) := by
  obtain ⟨before, behind, split, set⟩ := exists_set_eq found
  have parts (worker : Worker batch) :
      (before ++ worker :: behind).filterMap Worker.job? =
        before.filterMap Worker.job? ++
          (worker.job?.toList ++ behind.filterMap Worker.job?) := by
    rw [List.filterMap_append, List.filterMap_cons]
    cases worker.job? <;> rfl
  rw [inProgress_eq, inProgress_eq, workers, set, split, parts, parts]
  simp only [List.append_assoc]
  apply List.Perm.append_left
  calc
    List.Perm (new.job?.toList ++ (behind.filterMap Worker.job? ++ old.job?.toList))
        ((behind.filterMap Worker.job? ++ old.job?.toList) ++ new.job?.toList) :=
      List.perm_append_comm
    List.Perm _ ((old.job?.toList ++ behind.filterMap Worker.job?) ++ new.job?.toList) :=
      List.perm_append_comm.append_right _
    _ = old.job?.toList ++ (behind.filterMap Worker.job? ++ new.job?.toList) :=
      List.append_assoc _ _ _

/-- A worker that changes moves the count of those that are gone. -/
theorem goneCount_set
    (found : state.workers[index]? = some old)
    (workers : after.workers = state.workers.set index new) :
    after.goneCount + old.isGone.toNat = state.goneCount + new.isGone.toNat := by
  obtain ⟨before, behind, split, set⟩ := exists_set_eq found
  unfold goneCount
  rw [workers, set, split]
  simp only [List.countP_append, List.countP_cons]
  cases old.isGone <;> cases new.isGone <;> simp <;> omega

end State

theorem MayReceive.found {state : State batch} {index : Nat} (may : MayReceive state index) :
    ∃ old, state.workers[index]? = some old ∧ old.job? = none ∧ old.isGone = false := by
  cases may with
  | unclaimed found _ => exact ⟨_, found, rfl, rfl⟩
  | passed found _ => exact ⟨_, found, rfl, rfl⟩
  | waited found _ => exact ⟨_, found, rfl, rfl⟩

/-- What is counted of sends and workers. -/
structure Counted (outcome : Job batch -> Outcome) (limit : Nat) (state : State batch) :
    Prop where
  /-- There are as many workers as at the start. -/
  workers : state.workers.length = max limit 1
  /-- Every send that was started has ended or is in progress. -/
  started : state.started.Perm (state.ended ++ state.inProgress)
  /-- Every worker that broke down is gone. -/
  crashes_le : state.crashCount outcome ≤ state.goneCount
  /-- Until the queue is closed and empty, no other worker is gone. -/
  crashes_eq : state.isStopping = false ∨ state.held ≠ [] ->
    state.crashCount outcome = state.goneCount
  /-- Nobody waits once the queue is closed. -/
  settled : state.isStopping = true -> .waiting ∉ state.fates

namespace Counted

section Consequences

variable {outcome : Job batch -> Outcome} {index limit : Nat} {state : State batch}

/-- As long as a worker is left, not every worker has broken down. -/
theorem not_allCrashed {worker : Worker batch}
    (counted : Counted outcome limit state)
    (found : state.workers[index]? = some worker)
    (staffed : worker.isGone = false) :
    ¬ state.AllCrashed outcome := by
  intro crashed
  have gone : state.goneCount = state.workers.length := by
    have crashes := counted.crashes_le
    have most := state.goneCount_le
    unfold State.AllCrashed at crashed
    omega
  have isGone := List.countP_eq_length.mp gone worker (List.mem_of_getElem? found)
  exact Bool.false_ne_true (staffed.symm.trans isGone)

theorem isDeserted_of_allCrashed
    (counted : Counted outcome limit state)
    (crashed : state.AllCrashed outcome) :
    state.isDeserted = true := by
  have crashes := counted.crashes_le
  have most := state.goneCount_le
  unfold State.AllCrashed at crashed
  rw [state.isDeserted_iff]
  omega

theorem not_allCrashed_of_staffed
    (counted : Counted outcome limit state)
    (staffed : state.isDeserted = false) :
    ¬ state.AllCrashed outcome :=
  fun crashed =>
    Bool.false_ne_true (staffed.symm.trans (counted.isDeserted_of_allCrashed crashed))

/-- When no worker is left although the queue was not closed, every worker has broken down. -/
theorem allCrashed_of_isDeserted
    (counted : Counted outcome limit state)
    (deserted : state.isDeserted = true)
    (stillOpen : state.isStopping = false ∨ state.held ≠ []) :
    state.AllCrashed outcome :=
  (counted.crashes_eq stillOpen).trans (state.isDeserted_iff.mp deserted)

/-- When the last worker breaks down before the queue is closed and empty, every one has. -/
theorem allCrashed_of_last {job : Job batch} {after : State batch}
    (counted : Counted outcome limit state)
    (sending : state.workers[index]? = some (.sending job))
    (crashes : outcome job = .crashed)
    (alone : after.isDeserted = true)
    (workers : after.workers = state.workers.set index .gone)
    (ended : after.ended = state.ended ++ [job])
    (stillOpen : state.isStopping = false ∨ state.held ≠ []) :
    after.AllCrashed outcome := by
  have before := counted.crashes_eq stillOpen
  have gone := State.goneCount_set sending workers
  have all := after.isDeserted_iff.mp alone
  have crash : after.crashCount outcome = state.crashCount outcome + 1 := by
    unfold State.crashCount
    rw [ended, List.countP_append]
    simp [crashes]
  unfold State.AllCrashed
  simp only [Worker.isGone, Bool.toNat_false, Bool.toNat_true] at gone
  omega

theorem proceeding_of_waiting {number : Nat}
    (counted : Counted outcome limit state)
    (waiting : state.fates[number]? = some .waiting) :
    state.isStopping = false := by
  cases stopping : state.isStopping with
  | false => rfl
  | true => exact absurd (List.mem_of_getElem? waiting) (counted.settled stopping)

end Consequences

variable [DecidableEq batch] {outcome : Job batch -> Outcome} {index limit : Nat}
  {state after : State batch}

/--
A worker may change if the sends balance: what is begun and what the worker
sent before has ended or is what it sends now.
-/
theorem replace {old : Worker batch} (new : Worker batch) (begun done : List (Job batch))
    (counted : Counted outcome limit state)
    (found : state.workers[index]? = some old)
    (workers : after.workers = state.workers.set index new)
    (started : after.started = state.started ++ begun)
    (ended : after.ended = state.ended ++ done)
    (balance : (done ++ new.job?.toList).Perm (begun ++ old.job?.toList))
    (leaves : done.countP (fun job => outcome job = .crashed) + old.isGone.toNat ≤
      new.isGone.toNat)
    (closes : after.isStopping = false ∨ after.held ≠ [] ->
      (state.isStopping = false ∨ state.held ≠ []) ∧
        done.countP (fun job => outcome job = .crashed) + old.isGone.toNat = new.isGone.toNat)
    (settled : after.isStopping = true -> .waiting ∉ after.fates) :
    Counted outcome limit after := by
  have progress := State.inProgress_set found workers
  have gone := State.goneCount_set found workers
  have crashes : after.crashCount outcome =
      state.crashCount outcome + done.countP (fun job => outcome job = .crashed) := by
    unfold State.crashCount
    rw [ended, List.countP_append]
  constructor
  case workers =>
    rw [workers, List.length_set]
    exact counted.workers
  case started =>
    refine List.perm_iff_count.mpr ?_
    intro job
    have before := counted.started.count_eq job
    have moved := progress.count_eq job
    have balanced := balance.count_eq job
    rw [started, ended]
    simp only [List.count_append] at before moved balanced ⊢
    omega
  case crashes_le =>
    have before := counted.crashes_le
    omega
  case crashes_eq =>
    intro stillOpen
    obtain ⟨wasOpen, balanced⟩ := closes stillOpen
    have before := counted.crashes_eq wasOpen
    omega
  case settled => exact settled

theorem move
    (counted : Counted outcome limit state)
    (move : Move outcome index state after) :
    Counted outcome limit after := by
  cases move with
  | take job may holds =>
      obtain ⟨old, found, noJob, staffed⟩ := may.found
      refine replace (.sending job) [job] [] counted found rfl rfl
        (List.append_nil _).symm ?_ ?_ ?_ ?_
      · rw [noJob]
        rfl
      · rw [staffed]
        exact Nat.le_refl _
      · rw [staffed]
        rintro (proceeding | holding)
        · exact ⟨Or.inl proceeding, rfl⟩
        · exact absurd (State.held_eq_nil_of_offered rfl) holding
      · intro stopping waiting
        exact counted.settled stopping (waiting_mem_of_mem_settledFates (by simp) waiting)
  | pass => exact { counted with }
  | finish job sending survives =>
      refine replace .idle [] [job] counted sending rfl
        (List.append_nil _).symm rfl (List.Perm.refl _) ?_ ?_ counted.settled
      · simp [survives, Worker.isGone]
      · intro stillOpen
        exact ⟨stillOpen, by simp [survives, Worker.isGone]⟩

theorem halt
    (counted : Counted outcome limit state)
    (halt : Halt outcome index state after) :
    Counted outcome limit after := by
  cases halt with
  | rest nothing => exact counted
  | queue other idle turn =>
      refine replace .queueing [] [] counted idle rfl (List.append_nil _).symm
        (List.append_nil _).symm (List.Perm.refl _) (Nat.le_refl _) ?_ counted.settled
      exact fun stillOpen => ⟨stillOpen, rfl⟩
  | await may empty proceeding =>
      obtain ⟨old, found, noJob, staffed⟩ := may.found
      refine replace .receiving [] [] counted found rfl (List.append_nil _).symm
        (List.append_nil _).symm ?_ ?_ ?_ counted.settled
      · rw [noJob]
        rfl
      · rw [staffed]
        exact Nat.le_refl _
      · rw [staffed]
        exact fun stillOpen => ⟨stillOpen, rfl⟩
  | exit may empty stopping =>
      obtain ⟨old, found, noJob, staffed⟩ := may.found
      refine replace .gone [] [] counted found rfl (List.append_nil _).symm
        (List.append_nil _).symm ?_ ?_ ?_ counted.settled
      · rw [noJob]
        rfl
      · rw [staffed]
        exact Nat.zero_le 1
      · rintro (proceeding | holding)
        · exact absurd (stopping.symm.trans proceeding) (by decide)
        · exact absurd empty holding
  | block job sending => exact { counted with }
  | crash job sending crashes others =>
      refine replace .gone [] [job] counted sending rfl
        (List.append_nil _).symm rfl (List.Perm.refl _) ?_ ?_ counted.settled
      · simp [crashes, Worker.isGone]
      · intro stillOpen
        exact ⟨stillOpen, by simp [crashes, Worker.isGone]⟩
  | crashLast job sending crashes alone =>
      refine replace .gone [] [job] counted sending rfl
        (List.append_nil _).symm rfl (List.Perm.refl _) ?_ ?_
        (fun _ => waiting_notMem_refused state.fates)
      · simp [crashes, Worker.isGone]
      · rintro (proceeding | holding)
        · exact ⟨Or.inl proceeding, by simp [crashes, Worker.isGone]⟩
        · exact absurd rfl holding

theorem admission
    (counted : Counted outcome limit state)
    (admission : Admission state after) :
    Counted outcome limit after := by
  cases admission with
  | dismiss job ready decided => exact { counted with }
  | refuse job ready awaited deserted =>
      exact
        { counted with
          settled := fun stopping waiting =>
            counted.settled stopping (waiting_mem_of_mem_settledFates (by simp) waiting) }
  | enter job ready awaited staffed room =>
      have proceeding := counted.proceeding_of_waiting awaited
      exact { counted with crashes_eq := fun _ => counted.crashes_eq (Or.inl proceeding) }
  | line job ready awaited staffed full => exact { counted with }

theorem change {contents : List batch}
    (counted : Counted outcome limit state)
    (change : Change state contents after) :
    Counted outcome limit after := by
  cases change with
  | submit content proceeding =>
      exact
        { counted with
          settled := fun stopping => absurd (stopping.symm.trans proceeding) (by decide) }
  | giveUp number awaited unpromised =>
      exact
        { counted with
          settled := fun stopping waiting =>
            counted.settled stopping (waiting_mem_of_mem_settledFates (by simp) waiting) }
  | decline job awaited promised =>
      refine
        { counted with
          crashes_eq := ?_
          settled := fun stopping waiting =>
            counted.settled stopping (waiting_mem_of_mem_settledFates (by simp) waiting) }
      rintro (proceeding | holding)
      · exact counted.crashes_eq (Or.inl proceeding)
      · exact absurd (State.held_eq_nil_of_offered rfl) holding
  | release count permits => exact { counted with }
  | finish index present => exact { counted with }
  | stop proceeding settled =>
      exact
        { counted with
          crashes_eq := fun _ => counted.crashes_eq (Or.inl proceeding)
          settled := fun _ => settled }

/-- Every step keeps the counts. -/
theorem step {contents : List batch}
    (counted : Counted outcome limit state)
    (step : Step outcome state contents after) :
    Counted outcome limit after := by
  cases step with
  | stay => exact counted
  | goes ready goes =>
      exact goes.preserves _ _ { counted with } Counted.move Counted.halt
  | admits admission => exact counted.admission admission
  | changes change => exact counted.change change

omit [DecidableEq batch] in
theorem fresh (outcome : Job batch -> Outcome) (limit : Nat) :
    Counted outcome limit (State.fresh limit) where
  workers := List.length_replicate
  started := by
    simp [State.fresh, State.inProgress]
  crashes_le := Nat.zero_le _
  crashes_eq := by
    intro _
    simp [State.fresh, State.crashCount, State.goneCount, List.countP_replicate, Worker.isGone]
  settled := fun never => nomatch never

end Counted
end Dispatch
end Telemetry
