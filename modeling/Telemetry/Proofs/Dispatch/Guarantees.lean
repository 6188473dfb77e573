import Telemetry.Proofs.Dispatch.Settle

/-!
# What a dispatcher guarantees

No batch is lost, sent twice or sent out of turn, whatever the order in which
batches are submitted and given up, sends end or break down, and the dispatcher
is shut down.
-/

namespace Telemetry
namespace Dispatch

variable {batch : Type}

/-! ## When everything waits -/

namespace Sound

variable {outcome : Job batch -> Outcome} {limit : Nat} {submitted : List batch}
  {state : State batch}

/-- A worker that is neither sending nor gone waits for something that has not happened. -/
theorem eq_sending_of_urgent {index : Nat} {worker : Worker batch}
    (sound : Sound outcome limit submitted state)
    (rests : state.ready = [])
    (urgent : state.IsUrgent)
    (found : state.workers[index]? = some worker)
    (staffed : worker.isGone = false) :
    ∃ job, worker = .sending job := by
  have inactive : ∀ other, ¬ Active none state other := by
    rintro other (ready | never)
    · simp [rests] at ready
    · cases never
  have noReceiver : ∀ other, state.receiver ≠ some other := by
    intro other turn
    obtain ⟨outside, queueing | receiving⟩ := sound.ordered.receiver other turn
    · obtain waits | ⟨-, active⟩ := sound.ordered.queueing other queueing
      · exact outside waits
      · exact inactive other active
    · exact inactive other ((sound.ordered.receiving other receiving).2 urgent)
  cases worker with
  | idle => exact absurd (sound.ordered.idle index found) (inactive index)
  | queueing =>
      obtain waits | ⟨turn, -⟩ := sound.ordered.queueing index found
      · obtain ⟨other, turn⟩ := Option.ne_none_iff_exists'.mp
          (sound.ordered.claimed (List.ne_nil_of_mem waits))
        exact absurd turn (noReceiver other)
      · exact absurd turn (noReceiver index)
  | receiving => exact absurd (sound.ordered.receiving index found).1 (noReceiver index)
  | sending job => exact ⟨job, rfl⟩
  | gone => cases staffed

/-- A batch stays in the place only as long as every worker is busy. -/
theorem isBusy_of_held
    (sound : Sound outcome limit submitted state)
    (rests : state.ready = [])
    (holding : state.held ≠ []) :
    state.IsBusy := by
  obtain empty | ⟨job, holds, -⟩ := state.held_cases
  · exact absurd empty holding
  · constructor
    · by_contra nobody
      have all : ∀ worker ∈ state.workers, worker.isGone = true := by
        intro worker present
        exact Bool.of_not_eq_false (fun staffed => nobody ⟨worker, present, staffed⟩)
      have deserted := state.isDeserted_iff.mpr (List.countP_eq_length.mpr all)
      have crashed := sound.counted.allCrashed_of_isDeserted deserted (Or.inr holding)
      cases holds.symm.trans (sound.accounted.deserted crashed).1
    · intro worker present staffed
      obtain ⟨index, found⟩ := List.mem_iff_getElem?.mp present
      exact sound.eq_sending_of_urgent rests (Or.inl ⟨job, holds⟩) found staffed

/-- As long as a submission waits, there is a batch in the place. -/
theorem held_ne_nil_of_waiting
    (sound : Sound outcome limit submitted state)
    (rests : state.ready = [])
    (waiting : .waiting ∈ state.fates) :
    state.held ≠ [] := by
  obtain ⟨number, found⟩ := List.mem_iff_getElem?.mp waiting
  have noneArrives : ∀ job, job ∉ state.arriving := by
    intro job arrives
    simp [rests] at arrives
  obtain ⟨job, -, arrives | waits | inPlace⟩ := sound.accounted.waiting number found
  · exact absurd arrives (noneArrives job)
  · unfold State.held
    cases place : state.place with
    | free => exact absurd (sound.accounted.free place) (List.ne_nil_of_mem waits)
    | promised first =>
        exact absurd (sound.accounted.promised first place).1 (noneArrives first)
    | holds first => simp
  · exact List.ne_nil_of_mem inPlace

/-- A submission stays waiting only as long as every worker is busy. -/
theorem isBusy_of_waiting
    (sound : Sound outcome limit submitted state)
    (rests : state.ready = [])
    (waiting : .waiting ∈ state.fates) :
    state.IsBusy :=
  sound.isBusy_of_held rests (sound.held_ne_nil_of_waiting rests waiting)

theorem inProgress_ne_nil_of_isBusy (busy : state.IsBusy) : state.inProgress ≠ [] := by
  obtain ⟨worker, present, staffed⟩ := busy.1
  obtain ⟨job, rfl⟩ := busy.2 worker present staffed
  exact List.ne_nil_of_mem ((state.mem_inProgress_iff job).mpr present)

/-- Once no send is in progress, all that entered the queue has been started. -/
theorem entered_eq_started
    (sound : Sound outcome limit submitted state)
    (rests : state.ready = [])
    (nothing : state.inProgress = [])
    (staffed : ¬ state.AllCrashed outcome) :
    state.entered = state.started := by
  rw [sound.accounted.entered_eq staffed]
  by_cases empty : state.held = []
  · rw [empty, List.append_nil]
  · exact absurd nothing (inProgress_ne_nil_of_isBusy (sound.isBusy_of_held rests empty))

/-- Once no send is in progress, a dispatcher that was shut down has no worker left. -/
theorem isShutDown_of_inProgress_eq_nil
    (sound : Sound outcome limit submitted state)
    (rests : state.ready = [])
    (nothing : state.inProgress = [])
    (stopping : state.isStopping = true) :
    state.isShutDown = true := by
  have gone : ∀ worker ∈ state.workers, worker.isGone = true := by
    intro worker present
    refine Bool.of_not_eq_false ?_
    intro staffed
    obtain ⟨index, found⟩ := List.mem_iff_getElem?.mp present
    obtain ⟨job, rfl⟩ := sound.eq_sending_of_urgent rests (Or.inr stopping) found staffed
    exact List.ne_nil_of_mem ((state.mem_inProgress_iff job).mpr present) nothing
  unfold State.isShutDown
  rw [stopping, state.isDeserted_iff.mpr (List.countP_eq_length.mpr gone)]
  rfl

/-! ## At any point -/

theorem started_prefix_entered (sound : Sound outcome limit submitted state) :
    state.started <+: state.entered := by
  obtain ⟨left, entered, -⟩ := sound.accounted.entered
  exact ⟨left, entered.symm⟩

theorem mem_batches_of_started {job : Job batch}
    (sound : Sound outcome limit submitted state)
    (started : job ∈ state.started) :
    job ∈ state.batches :=
  List.mem_append_right _ (sound.started_prefix_entered.subset started)

theorem started_numbers_nodup (sound : Sound outcome limit submitted state) :
    (state.started.map Job.number).Nodup := by
  refine sound.numbered.distinct.sublist (List.Sublist.map Job.number ?_)
  exact sound.started_prefix_entered.sublist.trans (List.sublist_append_right _ _)

theorem inProgress_length_le (sound : Sound outcome limit submitted state) :
    state.inProgress.length ≤ max limit 1 := by
  rw [← sound.counted.workers, state.inProgress_eq]
  exact List.length_filterMap_le _ _

/-- Once the shutdown is complete, every send that was started has ended. -/
theorem mem_ended_of_isShutDown {job : Job batch}
    (sound : Sound outcome limit submitted state)
    (done : state.isShutDown = true)
    (started : job ∈ state.started) :
    job ∈ state.ended := by
  unfold State.isShutDown at done
  have deserted := (Bool.and_eq_true_iff.mp done).2
  have gone := List.countP_eq_length.mp (state.isDeserted_iff.mp deserted)
  obtain ended | sends := List.mem_append.mp (sound.counted.started.mem_iff.mp started)
  · exact ended
  · exact absurd (gone _ ((state.mem_inProgress_iff job).mp sends)) (by simp [Worker.isGone])

/-- Once the shutdown is complete, what entered the queue has been sent if a worker survived. -/
theorem entered_of_isShutDown {job : Job batch}
    (sound : Sound outcome limit submitted state)
    (done : state.isShutDown = true)
    (entered : job ∈ state.entered) :
    job ∈ state.ended ∨ state.AllCrashed outcome := by
  have deserted := (Bool.and_eq_true_iff.mp done).2
  by_cases crashed : state.AllCrashed outcome
  · exact Or.inr crashed
  · rw [sound.accounted.entered_eq crashed] at entered
    have empty : state.held = [] := by
      by_contra holding
      exact crashed (sound.counted.allCrashed_of_isDeserted deserted (Or.inr holding))
    rw [empty, List.append_nil] at entered
    exact Or.inl (sound.mem_ended_of_isShutDown done entered)

end Sound

/-! ## When a send ends -/

section Ends

variable [DecidableEq batch] {outcome : Job batch -> Outcome} {limit index : Nat}
  {submitted : List batch} {state : State batch} {job : Job batch}

namespace State

omit [DecidableEq batch] in
theorem started_endSend (state : State batch) (index : Nat) (job : Job batch) :
    (endSend outcome state index job).started = state.started := by
  unfold endSend
  cases outcome job with
  | sent => rfl
  | failed => rfl
  | crashed =>
      dsimp only
      unfold closeIfDeserted
      split <;> rfl

theorem started_receive_of_holds (job : Job batch) (holds : state.place = .holds job) :
    (receive outcome state index).started = state.started ++ [job] := by
  unfold receive
  rw [holds]
  dsimp only
  rw [take_eq]
  unfold startSend setWorker
  dsimp only
  split
  · exact started_endSend _ _ _
  · rfl

theorem started_prefix_receive (state : State batch) (index : Nat) :
    state.started <+: (receive outcome state index).started := by
  obtain empty | ⟨job, holds, -⟩ := state.held_cases
  · rw [receive_of_held_eq_nil outcome index empty]
    split
    · rw [passTurn_eq]
      exact List.prefix_rfl
    · exact List.prefix_rfl
  · rw [started_receive_of_holds job holds]
    exact List.prefix_append _ _

theorem started_prefix_seek (state : State batch) (index : Nat) :
    state.started <+: (seek outcome state index).started := by
  unfold seek
  split
  · exact started_prefix_receive { state with receiver := some index } index
  · exact List.prefix_rfl

theorem started_prefix_seekIfIdle (state : State batch) (index : Nat) :
    state.started <+: (seekIfIdle outcome state index).started := by
  unfold seekIfIdle
  split
  · exact started_prefix_seek state index
  · exact List.prefix_rfl

/-- A worker whose send ends takes the batch in the place when nobody has the turn. -/
theorem mem_started_workerTurn {sends : Job batch}
    (sending : state.workers[index]? = some (.sending sends))
    (through : index ∉ state.gate)
    (survives : outcome sends ≠ .crashed)
    (vacant : state.receiver = none)
    (holds : state.place = .holds job) :
    job ∈ (workerTurn outcome state index).started := by
  have inside : index < state.workers.length := (List.getElem?_eq_some_iff.mp sending).1
  have freed : (endSend outcome state index sends).workers[index]? = some .idle ∧
      (endSend outcome state index sends).receiver = none ∧
      (endSend outcome state index sends).place = .holds job := by
    unfold endSend
    cases ending : outcome sends with
    | sent => exact ⟨List.getElem?_set_self inside, vacant, holds⟩
    | failed => exact ⟨List.getElem?_set_self inside, vacant, holds⟩
    | crashed => exact absurd ending survives
  have stepped : (workerStep outcome state index).started = state.started ++ [job] := by
    unfold workerStep
    rw [sending]
    dsimp only
    rw [if_neg through]
    unfold seekIfIdle seek
    rw [if_pos freed.1, freed.2.1]
    refine (started_receive_of_holds job ?_).trans ?_
    · exact freed.2.2
    · exact congrArg (· ++ [job]) (started_endSend state index sends)
  unfold workerTurn
  refine (started_prefix_seekIfIdle _ index).subset ?_
  rw [stepped]
  exact List.mem_append_right _ List.mem_cons_self

end State

/-- When a send ends and its worker survives, the batch in the place is started. -/
theorem Sound.mem_started_finish {sends : Job batch}
    (sound : Sound outcome limit submitted state)
    (rests : state.ready = [])
    (holds : state.place = .holds job)
    (sending : state.workers[index]? = some (.sending sends))
    (survives : outcome sends ≠ .crashed) :
    job ∈ (State.step outcome state (.finish index)).1.started := by
  have busy := sound.isBusy_of_held rests (by simp [State.held, holds])
  have gated : index ∈ state.gate := by
    obtain waits | ready | never := sound.ordered.sending index sends sending
    · exact waits
    · simp [rests] at ready
    · cases never
  have vacant : state.receiver = none := by
    by_contra claimed
    obtain ⟨other, turn⟩ := Option.ne_none_iff_exists'.mp claimed
    obtain ⟨-, queueing | receiving⟩ := sound.ordered.receiver other turn
    · obtain ⟨_, same⟩ := busy.2 _ (List.mem_of_getElem? queueing) rfl
      cases same
    · obtain ⟨_, same⟩ := busy.2 _ (List.mem_of_getElem? receiving) rfl
      cases same
  have changes := sound.step (Step.changes (Change.finish state index gated))
  have line : woken state.ready [.worker index] = [.worker index] := by
    rw [rests]
    rfl
  obtain ⟨tasks, settled⟩ := State.settle_of_ready_cons changes line
  have goesOn := changes.step (changes.ordered.step_act outcome (.turn (.worker index)))
  have applied : state.apply (.finish index) =
      .ok { state with
        gate := state.gate.filter (· != index)
        ready := woken state.ready [.worker index] } := by
    simp only [State.apply]
    rw [if_pos gated, State.wake_eq]
  unfold State.step
  rw [applied]
  dsimp only
  rw [settled]
  refine (goesOn.extends_follow outcome (tasks.map .turn)).started.subset ?_
  simp only [State.act]
  rw [if_pos ((mem_woken _ _ _).mpr (Or.inr List.mem_cons_self))]
  exact State.mem_started_workerTurn sending (by simp) survives vacant holds

end Ends

/-! ## The guarantees -/

/--
What a dispatcher guarantees at any point: `limit` is the limit on its sends,
and `submitted` is what was submitted so far.
-/
structure Guarantees [DecidableEq batch] (outcome : Job batch -> Outcome) (limit : Nat)
    (submitted : List batch) (state : State batch) : Prop where
  /-- No more sends are in progress than the limit, or one, allows. -/
  bounded : state.inProgress.length ≤ max limit 1
  /-- No submission is sent twice. -/
  once : (state.started.map Job.number).Nodup
  /-- What is sent under a number is what was submitted under it. -/
  known : ∀ job ∈ state.started, submitted[job.number]? = some job.content
  /-- Batches are taken in the order in which they entered the queue. -/
  inOrder : state.started <+: state.entered
  /-- A submission is accepted only once a worker has taken its batch, which is sent once. -/
  accepted : ∀ number, state.fates[number]? = some .accepted ->
    (state.started.map Job.number).count number = 1
  /-- A submission whose batch a worker has taken is accepted unless it was given up before. -/
  taken : ∀ job ∈ state.started,
    state.fates[job.number]? = some .accepted ∨ state.fates[job.number]? = some .givenUp
  /-- A submission that finds every worker busy, or comes later, waits until a send ends. -/
  stalled : state.IsBusy -> ∀ number, state.IsUndecided number -> ∀ later,
    (State.follow outcome state later).ended = state.ended ->
      (State.follow outcome state later).IsUndecided number
  /-- When a send ends and its worker survives, the batch in the queue is sent next. -/
  next : state.ready = [] -> ∀ job, state.place = .holds job -> ∀ index sends,
    state.workers[index]? = some (.sending sends) -> outcome sends ≠ .crashed ->
      job ∈ (State.step outcome state (.finish index)).1.started
  /-- A submission is left waiting only as long as every worker is busy. -/
  waits : state.ready = [] -> .waiting ∈ state.fates -> state.IsBusy
  /-- A batch that was given up before it entered the queue is never sent. -/
  withdrawn : ∀ number, state.fates[number]? = some .givenUp ->
    number ∉ state.entered.map Job.number -> ∀ later,
      number ∉ (State.follow outcome state later).started.map Job.number
  /-- Whatever entered the queue has been sent once no send is in progress any more, given up or
  not, if a worker survives. -/
  sent : state.ready = [] -> state.inProgress = [] -> ¬ state.AllCrashed outcome ->
    state.entered = state.started
  /-- Before the shutdown a worker is gone only when it broke down: a failed send leaves it. -/
  alive : state.isStopping = false -> state.goneCount = state.crashCount outcome
  /-- A submission is refused only when every worker has broken down. -/
  refused : .refused ∈ state.fates -> state.AllCrashed outcome
  /-- Once every worker has broken down, each submission that waits is about to be refused. -/
  deserted : state.AllCrashed outcome -> ∀ number, state.fates[number]? = some .waiting ->
    ∃ job, job.number = number ∧ .entry job ∈ state.ready ∧
      (State.act outcome state (.turn (.entry job))).fates[number]? = some .refused
  /-- Once the shutdown is complete, every accepted batch has had its send. -/
  drained : state.isShutDown = true -> ∀ number, state.fates[number]? = some .accepted ->
    number ∈ state.ended.map Job.number
  /-- And so has every batch that entered the queue, if a worker survived to take it. -/
  emptied : state.isShutDown = true -> ¬ state.AllCrashed outcome ->
    ∀ job ∈ state.entered, job ∈ state.ended
  /-- The shutdown is complete once no send is in progress. -/
  stops : state.ready = [] -> state.inProgress = [] -> state.isStopping = true ->
    state.isShutDown = true
  /-- Turns cannot go on for ever, in whatever order they are taken. -/
  tires : ∀ task ∈ state.ready, (State.act outcome state (.turn task)).weight < state.weight

namespace Sound

variable [DecidableEq batch] {outcome : Job batch -> Outcome} {limit : Nat}
  {submitted : List batch} {state : State batch}

omit [DecidableEq batch] in
theorem count_of_accepted {number : Nat}
    (sound : Sound outcome limit submitted state)
    (accepted : state.fates[number]? = some .accepted) :
    (state.started.map Job.number).count number = 1 := by
  obtain ⟨job, started, same⟩ := sound.accounted.accepted number accepted
  refine List.count_eq_one_of_mem sound.started_numbers_nodup ?_
  exact List.mem_map.mpr ⟨job, started, same⟩

theorem isUndecided_follow {number : Nat}
    (sound : Sound outcome limit submitted state)
    (busy : state.IsBusy)
    (undecided : state.IsUndecided number)
    (later : List (Action batch))
    (same : (State.follow outcome state later).ended = state.ended) :
    (State.follow outcome state later).IsUndecided number := by
  have stalled := sound.follow_induction (Stalled state.ended.length number)
    (Or.inr ⟨rfl, busy, undecided⟩) Stalled.step later
  obtain more | ⟨-, -, still⟩ := stalled
  · rw [same] at more
    exact absurd more (Nat.lt_irrefl _)
  · exact still

theorem notMem_started_of_givenUp {number : Nat}
    (sound : Sound outcome limit submitted state)
    (givenUp : state.fates[number]? = some .givenUp)
    (outside : number ∉ state.entered.map Job.number)
    (later : List (Action batch)) :
    number ∉ (State.follow outcome state later).started.map Job.number := by
  intro sends
  obtain ⟨job, started, rfl⟩ := List.mem_map.mp sends
  have entered := (sound.follow later).started_prefix_entered.subset started
  obtain ⟨new, same, waited⟩ := (sound.extends_follow outcome later).entered
  rw [same] at entered
  obtain before | behind := List.mem_append.mp entered
  · exact outside (List.mem_map_of_mem before)
  · exact waited job behind .givenUp (by simp) givenUp

theorem refused_of_allCrashed {number : Nat}
    (sound : Sound outcome limit submitted state)
    (crashed : state.AllCrashed outcome)
    (waiting : state.fates[number]? = some .waiting) :
    ∃ job, job.number = number ∧ .entry job ∈ state.ready ∧
      (State.act outcome state (.turn (.entry job))).fates[number]? = some .refused := by
  obtain ⟨free, nobody⟩ := sound.accounted.deserted crashed
  obtain ⟨job, rfl, arrives | waits | inPlace⟩ := sound.accounted.waiting number waiting
  · have ready := (state.mem_arriving job).mp arrives
    have deserted := sound.counted.isDeserted_of_allCrashed crashed
    refine ⟨job, rfl, ready, ?_⟩
    simp only [State.act, State.turn]
    rw [if_pos ready]
    unfold State.entryTurn
    rw [if_neg (by simp [State.isAwaited, waiting])]
    refine (congrArg (fun state : State batch => state.fates[job.number]?)
      (if_pos deserted)).trans ?_
    rw [State.settleFate_eq]
    dsimp only
    rw [getElem?_settledFates, if_pos ⟨rfl, waiting⟩]
  · simp [nobody] at waits
  · simp [State.held, free] at inPlace

theorem guarantees (sound : Sound outcome limit submitted state) :
    Guarantees outcome limit submitted state where
  bounded := sound.inProgress_length_le
  once := sound.started_numbers_nodup
  known := fun job started => sound.numbered.known job (sound.mem_batches_of_started started)
  inOrder := sound.started_prefix_entered
  accepted := fun _ accepted => sound.count_of_accepted accepted
  taken := sound.accounted.taken
  stalled := fun busy _ undecided later same => sound.isUndecided_follow busy undecided later same
  next := fun rests _ holds _ _ sending survives =>
    sound.mem_started_finish rests holds sending survives
  waits := sound.isBusy_of_waiting
  withdrawn := fun _ givenUp outside later => sound.notMem_started_of_givenUp givenUp outside later
  sent := sound.entered_eq_started
  alive := fun proceeding => (sound.counted.crashes_eq (Or.inl proceeding)).symm
  refused := sound.accounted.refused
  deserted := fun crashed _ waiting => sound.refused_of_allCrashed crashed waiting
  drained := by
    intro done number accepted
    obtain ⟨job, started, same⟩ := sound.accounted.accepted number accepted
    exact List.mem_map.mpr ⟨job, sound.mem_ended_of_isShutDown done started, same⟩
  emptied := fun done survived job entered =>
    (sound.entered_of_isShutDown done entered).resolve_right survived
  stops := sound.isShutDown_of_inProgress_eq_nil
  tires := fun _ ready => State.weight_act_turn_lt outcome sound.ordered ready

end Sound

/--
What a dispatcher guarantees holds after steps in any order.  A run that lets
everything go on after each event takes its steps in one of these orders.
-/
theorem guarantees_in_any_order [DecidableEq batch] (outcome : Job batch -> Outcome)
    (limit : Nat) :
    (∀ order, Guarantees outcome limit ((State.fresh limit).submissions outcome order)
      (State.follow outcome (State.fresh limit) order)) ∧
    ∀ events, (State.run outcome limit events).ready = [] ∧
      ∃ order, State.run outcome limit events =
        State.follow outcome (State.fresh limit) order := by
  refine ⟨?_, State.run_spec outcome limit⟩
  intro order
  exact ((Sound.fresh outcome limit).follow order).guarantees

end Dispatch
end Telemetry
