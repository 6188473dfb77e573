import Telemetry.Dispatch.Order

/-!
# The parts of a turn as changes of single fields

Each part of a turn changes a few fields of the state.  The equations here
write the new state out, so that a property of other fields carries over
without a proof of its own.
-/

namespace Telemetry
namespace Dispatch

/-- The batch of a task that is about to enter the queue. -/
def Task.job? {batch : Type} : Task batch -> Option (Job batch)
  | .entry job => some job
  | .worker _ => none

/-! ## What is ready -/

section Ready

variable {batch : Type} [DecidableEq batch]

/-- What is ready once tasks were made ready in order. -/
def woken (ready tasks : List (Task batch)) : List (Task batch) :=
  tasks.foldl (fun ready task => if task ∈ ready then ready else ready ++ [task]) ready

@[simp] theorem woken_nil (ready : List (Task batch)) : woken ready [] = ready := rfl

theorem woken_cons (ready rest : List (Task batch)) (first : Task batch) :
    woken ready (first :: rest) =
      woken (if first ∈ ready then ready else ready ++ [first]) rest := rfl

@[simp] theorem mem_woken (ready tasks : List (Task batch)) (task : Task batch) :
    task ∈ woken ready tasks ↔ task ∈ ready ∨ task ∈ tasks := by
  induction tasks generalizing ready with
  | nil => simp
  | cons first rest inductionHypothesis =>
      rw [woken_cons, inductionHypothesis]
      split
      next present => grind
      next => simp [or_assoc]

theorem nodup_woken {ready : List (Task batch)}
    (distinct : ready.Nodup)
    (tasks : List (Task batch)) :
    (woken ready tasks).Nodup := by
  induction tasks generalizing ready with
  | nil => exact distinct
  | cons first rest inductionHypothesis =>
      rw [woken_cons]
      apply inductionHypothesis
      split
      next => exact distinct
      next absent =>
        refine List.nodup_append.mpr ⟨distinct, by simp, ?_⟩
        intro task present other isFirst same
        rw [List.mem_singleton.mp isFirst] at same
        exact absent (same ▸ present)

/-- Making workers ready makes no batch ready. -/
theorem filterMap_job?_woken_workers (ready : List (Task batch)) (indices : List Nat) :
    (woken ready (indices.map .worker)).filterMap Task.job? = ready.filterMap Task.job? := by
  induction indices generalizing ready with
  | nil => rfl
  | cons index rest inductionHypothesis =>
      rw [List.map_cons, woken_cons, inductionHypothesis]
      split
      · rfl
      · simp [Task.job?]

/-- A batch that is made ready comes behind those that are ready. -/
theorem filterMap_job?_woken_entry {ready : List (Task batch)} {job : Job batch}
    (absent : job ∉ ready.filterMap Task.job?) :
    (woken ready [.entry job]).filterMap Task.job? = ready.filterMap Task.job? ++ [job] := by
  have unready : .entry job ∉ ready := by
    intro present
    exact absent (List.mem_filterMap.mpr ⟨_, present, rfl⟩)
  rw [woken_cons, if_neg unready, woken_nil, List.filterMap_append]
  rfl

/-- A task that gets its chance takes its batch along, if it has one. -/
theorem filterMap_job?_erase (ready : List (Task batch)) (task : Task batch) :
    (ready.erase task).filterMap Task.job? =
      match task with
      | .worker _ => ready.filterMap Task.job?
      | .entry job => (ready.filterMap Task.job?).erase job := by
  induction ready with
  | nil => cases task <;> rfl
  | cons first rest inductionHypothesis =>
      by_cases same : first = task
      · subst same
        rw [List.erase_cons_head]
        cases first with
        | worker index => rfl
        | entry job => simp [Task.job?]
      · rw [List.erase_cons_tail (by simpa using same)]
        cases task with
        | worker index =>
            simp only at inductionHypothesis ⊢
            rw [List.filterMap_cons, inductionHypothesis, List.filterMap_cons]
        | entry job =>
            simp only at inductionHypothesis ⊢
            cases first with
            | worker index => exact inductionHypothesis
            | entry other =>
                have different : other ≠ job := fun equal => same (congrArg _ equal)
                simp [Task.job?, inductionHypothesis, different]

end Ready

/-! ## Room and fates -/

/-- The place of the queue once it was emptied, given the batches that wait for room. -/
def offered {batch : Type} : List (Job batch) -> Place batch
  | [] => .free
  | next :: _ => .promised next

theorem offered_eq_free_iff {batch : Type} (pending : List (Job batch)) :
    offered pending = .free ↔ pending = [] := by
  cases pending <;> simp [offered]

theorem offered_eq_promised_iff {batch : Type} (pending : List (Job batch)) (job : Job batch) :
    offered pending = .promised job ↔ pending.head? = some job := by
  cases pending <;> simp [offered]

theorem mem_iff_head?_or_tail {batch : Type} (pending : List (Job batch)) (job : Job batch) :
    job ∈ pending ↔ pending.head? = some job ∨ job ∈ pending.tail := by
  cases pending <;> simp [eq_comm]

theorem offered_ne_holds {batch : Type} (pending : List (Job batch)) (job : Job batch) :
    offered pending ≠ .holds job := by
  cases pending <;> simp [offered]

/-- Fates once that of a submission that is still waiting was settled. -/
def settledFates (fates : List Fate) (number : Nat) (fate : Fate) : List Fate :=
  if fates[number]? = some .waiting then fates.set number fate else fates

theorem getElem?_settledFates (fates : List Fate) (number other : Nat) (fate : Fate) :
    (settledFates fates number fate)[other]? =
      if other = number ∧ fates[number]? = some .waiting then some fate else fates[other]? := by
  unfold settledFates
  by_cases waiting : fates[number]? = some .waiting
  · rw [if_pos waiting]
    by_cases same : other = number
    · subst same
      have inside : other < fates.length := (List.getElem?_eq_some_iff.mp waiting).1
      rw [if_pos ⟨rfl, waiting⟩, List.getElem?_set_self inside]
    · rw [List.getElem?_set_ne (Ne.symm same), if_neg (fun both => same both.1)]
  · rw [if_neg waiting, if_neg (fun both => waiting both.2)]

/-- A submission is waiting once a fate was settled if it waited before and was not settled. -/
theorem settledFates_waiting_iff {fates : List Fate} {number other : Nat} {fate : Fate}
    (decided : fate ≠ .waiting) :
    (settledFates fates number fate)[other]? = some .waiting ↔
      fates[other]? = some .waiting ∧ other ≠ number := by
  rw [getElem?_settledFates]
  split
  next both =>
    constructor
    · exact fun same => absurd (Option.some.inj same) decided
    · exact fun waits => absurd both.1 waits.2
  next neither =>
    refine ⟨fun waiting => ⟨waiting, ?_⟩, And.left⟩
    intro same
    exact neither ⟨same, same ▸ waiting⟩

/-- A fate that was decided stays as it is. -/
theorem settledFates_of_decided {fates : List Fate} {number other : Nat} {fate old : Fate}
    (found : fates[other]? = some old)
    (decided : old ≠ .waiting) :
    (settledFates fates number fate)[other]? = some old := by
  rw [getElem?_settledFates, if_neg]
  · exact found
  · rintro ⟨same, waiting⟩
    rw [same] at found
    exact decided (Option.some.inj (found.symm.trans waiting))

/-- A fate other than the one settled on was there before. -/
theorem settledFates_old {fates : List Fate} {number other : Nat} {fate old : Fate}
    (found : (settledFates fates number fate)[other]? = some old)
    (different : old ≠ fate) :
    fates[other]? = some old := by
  rw [getElem?_settledFates] at found
  split at found
  next => exact absurd (Option.some.inj found).symm different
  next => exact found

/-- Settling a fate leaves nobody waiting who did not wait before. -/
theorem waiting_mem_of_mem_settledFates {fates : List Fate} {number : Nat} {fate : Fate}
    (decided : fate ≠ .waiting)
    (waiting : .waiting ∈ settledFates fates number fate) :
    .waiting ∈ fates := by
  unfold settledFates at waiting
  split at waiting
  · exact (List.mem_or_eq_of_mem_set waiting).resolve_right decided.symm
  · exact waiting

/-- Once all that still waited was refused, nobody waits. -/
theorem waiting_notMem_refused (fates : List Fate) :
    .waiting ∉ fates.map fun fate => if fate = .waiting then .refused else fate := by
  intro waiting
  obtain ⟨fate, -, same⟩ := List.mem_map.mp waiting
  split at same
  next => cases same
  next decided => exact decided same

/-- Refusing all that still waited changes no fate that was decided. -/
theorem refused_of_decided {fates : List Fate} {number : Nat} {fate : Fate}
    (found : fates[number]? = some fate)
    (decided : fate ≠ .waiting) :
    (fates.map fun fate => if fate = .waiting then .refused else fate)[number]? = some fate := by
  rw [List.getElem?_map, found]
  exact congrArg some (if_neg decided)

/-- Who was not refused with all that still waited was not refused before. -/
theorem refused_old {fates : List Fate} {number : Nat} {fate : Fate}
    (found : (fates.map fun fate => if fate = .waiting then .refused else fate)[number]? =
      some fate)
    (different : fate ≠ .refused) :
    fates[number]? = some fate := by
  rw [List.getElem?_map] at found
  obtain ⟨old, present, same⟩ := Option.map_eq_some_iff.mp found
  split at same
  next => exact absurd same.symm different
  next => exact same ▸ present

@[simp] theorem length_settledFates (fates : List Fate) (number : Nat) (fate : Fate) :
    (settledFates fates number fate).length = fates.length := by
  unfold settledFates
  split <;> simp

namespace State

variable {batch : Type}

/-- The batches that are about to enter the queue. -/
def arriving (state : State batch) : List (Job batch) :=
  state.ready.filterMap Task.job?

@[simp] theorem mem_arriving (state : State batch) (job : Job batch) :
    job ∈ state.arriving ↔ .entry job ∈ state.ready := by
  unfold arriving
  rw [List.mem_filterMap]
  constructor
  · rintro ⟨task, present, isEntry⟩
    cases task with
    | worker index => cases isEntry
    | entry other =>
        cases isEntry
        exact present
  · exact fun present => ⟨_, present, rfl⟩

/-- A batch on its way stays so when another one gets its chance. -/
theorem mem_arriving_erase [DecidableEq batch] {state : State batch} {job other : Job batch}
    (arrives : other ∈ state.arriving)
    (different : other ≠ job) :
    other ∈ (state.ready.erase (.entry job)).filterMap Task.job? := by
  rw [filterMap_job?_erase]
  exact (List.mem_erase_of_ne different).mpr arrives

/-- The batch in the place of the queue. -/
def held (state : State batch) : List (Job batch) :=
  match state.place with
  | .holds job => [job]
  | _ => []

theorem held_cases (state : State batch) :
    state.held = [] ∨ ∃ job, state.place = .holds job ∧ state.held = [job] := by
  unfold held
  cases state.place with
  | free => exact Or.inl rfl
  | promised job => exact Or.inl rfl
  | holds job => exact Or.inr ⟨job, rfl, rfl⟩

theorem held_eq_nil_of_offered {state : State batch} {pending : List (Job batch)}
    (place : state.place = offered pending) :
    state.held = [] := by
  unfold held
  rw [place]
  cases pending <;> rfl

theorem isAwaited_iff (state : State batch) (number : Nat) :
    state.isAwaited number = true ↔ state.fates[number]? = some .waiting := by
  simp [isAwaited]

/-- The task of the worker that waits for a batch, if one does. -/
def receiverTasks [DecidableEq batch] (state : State batch) : List (Task batch) :=
  match state.receiver with
  | none => []
  | some index => if state.workers[index]? = some .receiving then [.worker index] else []

theorem settleFate_eq (state : State batch) (number : Nat) (fate : Fate) :
    state.settleFate number fate =
      { state with fates := settledFates state.fates number fate } := by
  unfold settleFate settledFates
  by_cases waiting : state.isAwaited number = true
  · rw [if_pos waiting, if_pos ((state.isAwaited_iff number).mp waiting)]
  · rw [if_neg waiting, if_neg (mt (state.isAwaited_iff number).mpr waiting)]

/-! ## Turns and room -/

variable [DecidableEq batch]

theorem wake_eq (state : State batch) (task : Task batch) :
    state.wake task = { state with ready := woken state.ready [task] } := by
  unfold wake woken
  rw [List.foldl_cons, List.foldl_nil]
  split <;> rfl

/-- Passing the turn on makes the worker ready that waited longest. -/
theorem passTurn_eq (state : State batch) :
    state.passTurn =
      { state with
        receiver := state.turns.head?
        turns := state.turns.tail
        ready := woken state.ready (state.turns.head?.toList.map .worker) } := by
  unfold passTurn
  cases waiting : state.turns with
  | nil => simp
  | cons next rest => simp [wake_eq]

/-- Making room offers the place to the batch that waited longest and makes it ready. -/
theorem makeRoom_eq (state : State batch) :
    state.makeRoom =
      { state with
        place := offered state.pending
        pending := state.pending.tail
        ready := woken state.ready (state.pending.head?.toList.map .entry) } := by
  unfold makeRoom
  cases waiting : state.pending with
  | nil => simp [offered]
  | cons next rest => simp [wake_eq, offered]

theorem wakeReceiver_eq (state : State batch) :
    state.wakeReceiver = { state with ready := woken state.ready state.receiverTasks } := by
  unfold wakeReceiver
  split
  next turn =>
    have noTask : state.receiverTasks = [] := by
      simp [receiverTasks, turn]
    rw [noTask, woken_nil]
  next index turn =>
    split
    next receiving =>
      have oneTask : state.receiverTasks = [.worker index] := by
        simp [receiverTasks, turn, receiving]
      rw [oneTask, wake_eq]
    next busy =>
      have noTask : state.receiverTasks = [] := by
        simp [receiverTasks, turn, busy]
      rw [noTask, woken_nil]

theorem exists_receiverTasks_eq (state : State batch) :
    ∃ indices : List Nat, state.receiverTasks = indices.map .worker := by
  unfold receiverTasks
  split
  · exact ⟨[], rfl⟩
  · split
    · exact ⟨[_], rfl⟩
    · exact ⟨[], rfl⟩

theorem length_receiverTasks_le (state : State batch) : state.receiverTasks.length ≤ 1 := by
  unfold receiverTasks
  split
  · simp
  · split <;> simp

/-- A batch that enters the queue makes the worker ready that waits for it. -/
theorem enter_eq (state : State batch) (job : Job batch) :
    state.enter job =
      { state with
        place := .holds job
        entered := state.entered ++ [job]
        ready := woken state.ready state.receiverTasks } := by
  unfold enter
  rw [wakeReceiver_eq]
  rfl

/-- A worker that takes the batch in the place makes room, passes the turn on, and settles the
fate of the submission. -/
theorem take_eq (state : State batch) (number : Nat) :
    state.makeRoom.passTurn.settleFate number .accepted =
      { state with
        place := offered state.pending
        pending := state.pending.tail
        receiver := state.turns.head?
        turns := state.turns.tail
        fates := settledFates state.fates number .accepted
        ready := woken (woken state.ready (state.pending.head?.toList.map .entry))
          (state.turns.head?.toList.map .worker) } := by
  rw [settleFate_eq, passTurn_eq, makeRoom_eq]

theorem filterMap_job?_woken_receiverTasks (ready : List (Task batch)) (state : State batch) :
    (woken ready state.receiverTasks).filterMap Task.job? = ready.filterMap Task.job? := by
  obtain ⟨indices, same⟩ := state.exists_receiverTasks_eq
  rw [same, filterMap_job?_woken_workers]

end State
end Dispatch
end Telemetry
