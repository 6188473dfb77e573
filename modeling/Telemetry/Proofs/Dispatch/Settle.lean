import Mathlib.Data.List.Induction
import Telemetry.Proofs.Dispatch.History

/-!
# Everything comes to rest

A turn uses up more than it makes ready, whatever the order of the turns, so
after finitely many turns everything waits.
-/

namespace Telemetry
namespace Dispatch

variable {batch : Type} [DecidableEq batch]

/-! ## What a turn uses up -/

theorem length_woken_le (ready tasks : List (Task batch)) :
    (woken ready tasks).length ≤ ready.length + tasks.length := by
  induction tasks generalizing ready with
  | nil => exact Nat.le_refl _
  | cons first rest inductionHypothesis =>
      have grown : (if first ∈ ready then ready else ready ++ [first]).length ≤
          ready.length + 1 := by
        split <;> simp
      have later := inductionHypothesis (if first ∈ ready then ready else ready ++ [first])
      rw [woken_cons, List.length_cons]
      omega

/-- As many batches at most come on their way as are made ready. -/
theorem length_filterMap_job?_woken_le (ready tasks : List (Task batch)) :
    ((woken ready tasks).filterMap Task.job?).length ≤
      (ready.filterMap Task.job?).length + tasks.length := by
  induction tasks generalizing ready with
  | nil => exact Nat.le_refl _
  | cons first rest inductionHypothesis =>
      have grown :
          ((if first ∈ ready then ready else ready ++ [first]).filterMap Task.job?).length ≤
            (ready.filterMap Task.job?).length + 1 := by
        split
        · exact Nat.le_succ _
        · rw [List.filterMap_append, List.length_append]
          exact Nat.add_le_add_left (List.length_filterMap_le _ _) _
      have later := inductionHypothesis (if first ∈ ready then ready else ready ++ [first])
      rw [woken_cons, List.length_cons]
      omega

theorem length_head?_toList_le {entry : Type} (entries : List entry) :
    entries.head?.toList.length ≤ 1 := by
  cases entries <;> simp

theorem length_head?_add_tail {entry : Type} (entries : List entry) :
    entries.head?.toList.length + entries.tail.length = entries.length := by
  cases entries <;> simp [Nat.add_comm]

namespace State

/-- What the tasks and batches are worth that can still go on. -/
def load (state : State batch) : Nat :=
  state.ready.length + 3 * (state.arriving.length + state.pending.length) +
    2 * state.held.length

/--
How many turns can follow at most.  A batch on its way is worth the turn in
which it enters and those of the two workers that are called then and when it
is taken; a worker is worth the turn of the one that it calls when it goes.
-/
def weight (state : State batch) : Nat :=
  state.load + (state.workers.length - state.goneCount)

end State

variable {outcome : Job batch -> Outcome} {index limit : Nat} {state after : State batch}

omit [DecidableEq batch] in
theorem weight_le_of_set {old new : Worker batch}
    (found : state.workers[index]? = some old)
    (workers : after.workers = state.workers.set index new)
    (load : after.load + old.isGone.toNat ≤ state.load + new.isGone.toNat) :
    after.weight ≤ state.weight := by
  have gone := State.goneCount_set found workers
  have most := state.goneCount_le
  have mostLater := after.goneCount_le
  have length : after.workers.length = state.workers.length := by
    rw [workers, List.length_set]
  unfold State.weight
  omega

omit [DecidableEq batch] in
theorem weight_lt_of_load
    (workers : after.workers = state.workers)
    (load : after.load < state.load) :
    after.weight < state.weight := by
  unfold State.weight State.goneCount
  rw [workers]
  exact Nat.add_lt_add_right load _

omit [DecidableEq batch] in
theorem length_held_of_holds {job : Job batch} (holds : state.place = .holds job) :
    state.held.length = 1 := by
  unfold State.held
  rw [holds]
  rfl

/-- What a worker does after which it goes on makes no further turns possible. -/
theorem Move.weight_le (move : Move outcome index state after) : after.weight ≤ state.weight := by
  cases move with
  | take job may holds =>
      obtain ⟨old, found, -, staffed⟩ := may.found
      refine weight_le_of_set found rfl ?_
      rw [staffed]
      have room := length_head?_add_tail state.pending
      have called := length_head?_toList_le state.pending
      have passed := length_head?_toList_le state.turns
      have entries := length_woken_le state.ready (state.pending.head?.toList.map .entry)
      have workers := length_woken_le
        (woken state.ready (state.pending.head?.toList.map .entry))
        (state.turns.head?.toList.map .worker)
      have arrivals := length_filterMap_job?_woken_le state.ready
        (state.pending.head?.toList.map .entry)
      have before := length_held_of_holds holds
      unfold State.load State.arriving
      dsimp only
      rw [State.held_eq_nil_of_offered rfl, filterMap_job?_woken_workers]
      simp only [List.length_map, List.length_nil, Worker.isGone] at *
      omega
  | pass => exact Nat.le_refl _
  | finish job sending survives => exact weight_le_of_set sending rfl (Nat.le_refl _)

theorem Halt.weight_le (halt : Halt outcome index state after) : after.weight ≤ state.weight := by
  cases halt with
  | rest nothing => exact Nat.le_refl _
  | queue other idle turn => exact weight_le_of_set idle rfl (Nat.le_refl _)
  | await may empty proceeding =>
      obtain ⟨old, found, -, staffed⟩ := may.found
      refine weight_le_of_set found rfl ?_
      rw [staffed]
      exact Nat.le_refl _
  | exit may empty stopping =>
      obtain ⟨old, found, -, staffed⟩ := may.found
      refine weight_le_of_set found rfl ?_
      rw [staffed]
      have passed := length_head?_toList_le state.turns
      have workers := length_woken_le state.ready (state.turns.head?.toList.map .worker)
      unfold State.load State.arriving State.held
      dsimp only
      rw [filterMap_job?_woken_workers]
      rw [List.length_map] at workers
      simp only [Worker.isGone, Bool.toNat_false, Bool.toNat_true]
      omega
  | block job sending => exact Nat.le_refl _
  | crash job sending crashes others =>
      exact weight_le_of_set sending rfl (Nat.le_add_right _ 1)
  | crashLast job sending crashes alone =>
      refine weight_le_of_set sending rfl ?_
      unfold State.load State.arriving State.held
      dsimp only
      rw [List.length_nil]
      simp only [Worker.isGone, Bool.toNat_false, Bool.toNat_true]
      omega

/-- A batch that gets its chance uses up more than it makes ready. -/
theorem Admission.weight_lt (admission : Admission state after) :
    after.weight < state.weight := by
  have erased {job : Job batch} (ready : .entry job ∈ state.ready) :
      (state.ready.erase (.entry job)).length + 1 = state.ready.length ∧
        (state.arriving.erase job).length + 1 = state.arriving.length := by
    have arrives := (state.mem_arriving job).mpr ready
    have someReady := List.length_pos_of_mem ready
    have someArrives := List.length_pos_of_mem arrives
    rw [List.length_erase_of_mem ready, List.length_erase_of_mem arrives]
    omega
  cases admission with
  | dismiss job ready decided =>
      obtain ⟨tasks, batches⟩ := erased ready
      refine weight_lt_of_load rfl ?_
      unfold State.load State.arriving State.held at *
      rw [filterMap_job?_erase]
      dsimp only
      omega
  | refuse job ready awaited deserted =>
      obtain ⟨tasks, batches⟩ := erased ready
      refine weight_lt_of_load rfl ?_
      unfold State.load State.arriving State.held at *
      rw [filterMap_job?_erase]
      dsimp only
      omega
  | enter job ready awaited staffed room =>
      obtain ⟨tasks, batches⟩ := erased ready
      refine weight_lt_of_load rfl ?_
      unfold State.load State.arriving State.held at *
      have called := length_woken_le (state.ready.erase (.entry job)) state.receiverTasks
      have single := state.length_receiverTasks_le
      rw [State.filterMap_job?_woken_receiverTasks, filterMap_job?_erase]
      dsimp only
      rw [List.length_singleton]
      omega
  | line job ready awaited staffed full =>
      obtain ⟨tasks, batches⟩ := erased ready
      refine weight_lt_of_load rfl ?_
      unfold State.load State.arriving State.held at *
      rw [filterMap_job?_erase]
      dsimp only
      rw [List.length_append, List.length_singleton]
      omega

namespace State

theorem weight_begin (ready : .worker index ∈ state.ready) :
    weight { state with ready := state.ready.erase (.worker index) } < state.weight := by
  have someReady := List.length_pos_of_mem ready
  refine weight_lt_of_load rfl ?_
  unfold load arriving held
  dsimp only
  rw [filterMap_job?_erase, List.length_erase_of_mem ready]
  dsimp only
  omega

variable (outcome) in
/-- Every turn uses up more than it makes ready. -/
theorem weight_act_turn_lt {task : Task batch}
    (ordered : Ordered none state)
    (ready : task ∈ state.ready) :
    (act outcome state (.turn task)).weight < state.weight := by
  simp only [act]
  rw [if_pos ready]
  cases task with
  | worker index =>
      have poised := ordered.poised ready
      have goes : Goes outcome index { state with ready := state.ready.erase (.worker index) } _ :=
        goes_workerTurn outcome ⟨poised.receiving, poised.sending⟩
      refine Nat.lt_of_le_of_lt ?_ (weight_begin ready)
      exact goes.preserves _ (fun later => later.weight ≤ _) (Nat.le_refl _)
        (fun before move => Nat.le_trans move.weight_le before)
        (fun before halt => Nat.le_trans halt.weight_le before)
  | entry job => exact (admission_entryTurn ready).weight_lt

/-! ## Settling -/

theorem settleFor_succ {task : Task batch} {rest : List (Task batch)} {turns : Nat}
    (line : state.ready = task :: rest) :
    settleFor outcome (turns + 1) state =
      settleFor outcome turns (act outcome state (.turn task)) := by
  simp only [settleFor, act]
  rw [line, if_pos List.mem_cons_self, List.erase_cons_head]

/-- Turns that are taken until everything waits are steps in one of the orders. -/
theorem settleFor_spec {submitted : List batch}
    (sound : Sound outcome limit submitted state)
    (turns : Nat)
    (enough : state.weight ≤ turns) :
    (settleFor outcome turns state).ready = [] ∧
      ∃ tasks : List (Task batch),
        settleFor outcome turns state = follow outcome state (tasks.map .turn) := by
  induction turns generalizing state submitted with
  | zero =>
      refine ⟨?_, [], rfl⟩
      have light : state.ready.length ≤ state.weight := by
        unfold weight load
        omega
      exact List.eq_nil_of_length_eq_zero (Nat.le_zero.mp (Nat.le_trans light enough))
  | succ turns inductionHypothesis =>
      cases line : state.ready with
      | nil =>
          have rests : settleFor outcome (turns + 1) state = state := by
            simp only [settleFor]
            rw [line]
          rw [rests]
          exact ⟨line, [], rfl⟩
      | cons task rest =>
          have ready : task ∈ state.ready := line ▸ List.mem_cons_self
          have lighter := weight_act_turn_lt outcome sound.ordered ready
          obtain ⟨rests, tasks, same⟩ := inductionHypothesis
            (sound.step (sound.ordered.step_act outcome (.turn task))) (by omega)
          rw [settleFor_succ line]
          refine ⟨rests, task :: tasks, ?_⟩
          rw [same]
          rfl

omit [DecidableEq batch] in
theorem weight_le_turnLimit {submitted : List batch}
    (sound : Sound outcome limit submitted state) :
    state.weight ≤ state.turnLimit := by
  have places : state.batches.length ≤ state.fates.length := by
    have inRange : state.batches.map Job.number ⊆ List.range state.fates.length := by
      intro number used
      obtain ⟨job, present, same⟩ := List.mem_map.mp used
      exact List.mem_range.mpr (same ▸ sound.numbered.number_lt present)
    have fewer := (sound.numbered.distinct.subperm inRange).length_le
    rwa [List.length_map, List.length_range] at fewer
  have queued : state.held.length ≤ state.entered.length := by
    obtain ⟨left, entered, same | crashed⟩ := sound.accounted.entered
    · rw [entered, same, List.length_append]
      exact Nat.le_add_left _ _
    · have free := (sound.accounted.deserted crashed).1
      unfold held
      rw [free]
      exact Nat.zero_le _
  unfold batches at places
  simp only [List.length_append] at places
  unfold weight load turnLimit
  omega

theorem settle_spec {submitted : List batch}
    (sound : Sound outcome limit submitted state) :
    (settle outcome state).ready = [] ∧
      ∃ tasks : List (Task batch),
        settle outcome state = follow outcome state (tasks.map .turn) :=
  settleFor_spec sound state.turnLimit (weight_le_turnLimit sound)

/-- What became ready first gets its chance first. -/
theorem settle_of_ready_cons {submitted : List batch} {task : Task batch}
    {rest : List (Task batch)}
    (sound : Sound outcome limit submitted state)
    (line : state.ready = task :: rest) :
    ∃ tasks : List (Task batch),
      settle outcome state =
        follow outcome (act outcome state (.turn task)) (tasks.map .turn) := by
  have ready : task ∈ state.ready := line ▸ List.mem_cons_self
  have lighter := weight_act_turn_lt outcome sound.ordered ready
  have enough := weight_le_turnLimit sound
  have later := settleFor_spec (sound.step (sound.ordered.step_act outcome (.turn task)))
    (state.turnLimit - 1) (by omega)
  rw [← settleFor_succ line] at later
  obtain ⟨tasks, same⟩ := later.2
  have positive : state.turnLimit - 1 + 1 = state.turnLimit := by
    unfold turnLimit
    omega
  rw [positive] at same
  exact ⟨tasks, same⟩

/-- A run of events takes its steps in one of the orders, and leaves everything waiting. -/
theorem run_spec (outcome : Job batch -> Outcome) (limit : Nat) (events : List (Event batch)) :
    (run outcome limit events).ready = [] ∧
      ∃ order, run outcome limit events = follow outcome (fresh limit) order := by
  induction events using List.reverseRecOn with
  | nil =>
      obtain ⟨rests, tasks, same⟩ := settle_spec (Sound.fresh outcome limit)
      exact ⟨rests, tasks.map .turn, same⟩
  | append_singleton early event inductionHypothesis =>
      obtain ⟨rests, order, same⟩ := inductionHypothesis
      have stepped : run outcome limit (early ++ [event]) =
          (step outcome (run outcome limit early) event).1 := by
        unfold run
        rw [List.foldl_append]
        rfl
      rw [stepped]
      unfold step
      cases applied : (run outcome limit early).apply event with
      | error objection => exact ⟨rests, order, same⟩
      | ok changed =>
          have acted : changed = follow outcome (fresh limit) (order ++ [.event event]) := by
            rw [follow_append, ← same, follow_cons, follow_nil]
            simp only [act]
            rw [applied]
          have sound := (Sound.fresh outcome limit).follow (order ++ [.event event])
          rw [← acted] at sound
          obtain ⟨later, tasks, settled⟩ := settle_spec sound
          refine ⟨later, order ++ [.event event] ++ tasks.map .turn, ?_⟩
          dsimp only
          rw [settled, acted, ← follow_append]

end State
end Dispatch
end Telemetry
