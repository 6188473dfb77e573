import Telemetry.Proofs.Dispatch.Guarantees
import Telemetry.Proofs.Dispatch.Quiet

/-!
# Sends that end one at a time

When sends are let through the gate one at a time, no submission is given up
and no worker breaks down, a dispatcher has taken every batch in the order of
submission.  A batch is started when it is submitted or, if every worker is
busy then, when the next send ends.
-/

namespace Telemetry
namespace Dispatch

variable {batch : Type}

/-! ## Batches in the order of submission -/

/-- No send breaks its worker down. -/
def Robust (outcome : Job batch -> Outcome) : Prop :=
  ∀ job, outcome job ≠ .crashed

/-- The batches of submissions in their order. -/
def jobs (contents : List batch) : List (Job batch) :=
  contents.mapIdx Job.mk

theorem jobs_concat (contents : List batch) (content : batch) :
    jobs (contents ++ [content]) = jobs contents ++ [⟨contents.length, content⟩] :=
  List.mapIdx_concat

@[simp] theorem length_jobs (contents : List batch) : (jobs contents).length = contents.length :=
  List.length_mapIdx

theorem exists_mem_jobs {contents : List batch} {number : Nat} (inside : number < contents.length) :
    ∃ job ∈ jobs contents, job.number = number :=
  ⟨⟨number, contents[number]⟩, List.mem_mapIdx.mpr ⟨number, inside, rfl⟩, rfl⟩

theorem number_lt_of_mem_jobs {contents : List batch} {job : Job batch}
    (present : job ∈ jobs contents) :
    job.number < contents.length := by
  obtain ⟨number, inside, rfl⟩ := List.mem_mapIdx.mp present
  exact inside

namespace Sound

variable {outcome : Job batch -> Outcome} {limit : Nat} {submitted contents : List batch}
  {state after : State batch}

theorem not_allCrashed
    (sound : Sound outcome limit submitted state)
    (robust : Robust outcome) :
    ¬ state.AllCrashed outcome := by
  have none : state.crashCount outcome = 0 :=
    List.countP_eq_zero.mpr (fun job _ crashes => robust job (of_decide_eq_true crashes))
  have workers := sound.counted.workers
  unfold State.AllCrashed
  omega

/-- A batch whose submission was accepted is not in the place any more. -/
theorem notMem_held_of_accepted {job : Job batch}
    (sound : Sound outcome limit submitted state)
    (robust : Robust outcome)
    (accepted : state.fates[job.number]? = some .accepted) :
    job ∉ state.held := by
  intro inPlace
  have entered := sound.accounted.entered_eq (sound.not_allCrashed robust)
  obtain ⟨other, started, same⟩ := sound.accounted.accepted job.number accepted
  have distinct := sound.numbered.distinct
  unfold State.batches at distinct
  rw [entered, ← List.append_assoc, List.map_append] at distinct
  refine (List.nodup_append.mp distinct).2.2 job.number ?_ job.number
    (List.mem_map_of_mem inPlace) rfl
  rw [← same]
  exact List.mem_map_of_mem (List.mem_append_right _ started)

/-- Whatever is started behind the first batches was submitted after them. -/
theorem le_number_of_started {more : List (Job batch)} {job : Job batch}
    (sound : Sound outcome limit submitted state)
    (split : jobs contents ++ more = state.started)
    (present : job ∈ more) :
    contents.length ≤ job.number ∧ submitted[job.number]? = some job.content := by
  constructor
  · refine Nat.le_of_not_lt ?_
    intro early
    obtain ⟨other, isFirst, same⟩ := exists_mem_jobs early
    have distinct := sound.started_numbers_nodup
    rw [← split, List.map_append] at distinct
    exact (List.nodup_append.mp distinct).2.2 other.number (List.mem_map_of_mem isFirst)
      job.number (List.mem_map_of_mem present) same
  · refine sound.numbered.known job (sound.mem_batches_of_started ?_)
    rw [← split]
    exact List.mem_append_right _ present

/-- Nothing is started besides what was submitted. -/
theorem started_eq_jobs
    (sound : Sound outcome limit contents state)
    (grows : jobs contents <+: state.started) :
    state.started = jobs contents := by
  obtain ⟨more, split⟩ := grows
  cases more with
  | nil => rw [← split, List.append_nil]
  | cons job rest =>
      obtain ⟨late, found⟩ := sound.le_number_of_started split List.mem_cons_self
      exact absurd (List.getElem?_eq_some_iff.mp found).1 (Nat.not_lt.mpr late)

/-- Of one more batch that was submitted nothing is started but itself. -/
theorem started_eq_jobs_or {content : batch}
    (sound : Sound outcome limit (contents ++ [content]) state)
    (grows : jobs contents <+: state.started) :
    state.started = jobs contents ∨ state.started = jobs (contents ++ [content]) := by
  obtain ⟨more, split⟩ := grows
  have isLast (job : Job batch) (present : job ∈ more) : job = ⟨contents.length, content⟩ := by
    obtain ⟨late, found⟩ := sound.le_number_of_started split present
    have inside := (List.getElem?_eq_some_iff.mp found).1
    rw [List.length_append, List.length_singleton] at inside
    have number : job.number = contents.length := by omega
    rw [number, List.getElem?_concat_length] at found
    rw [← number, Option.some.inj found]
  cases more with
  | nil =>
      rw [List.append_nil] at split
      exact Or.inl split.symm
  | cons job rest =>
      refine Or.inr ?_
      rw [jobs_concat, ← split, isLast job List.mem_cons_self]
      cases rest with
      | nil => rfl
      | cons other behind =>
          have distinct := sound.started_numbers_nodup
          rw [← split, List.map_append, isLast job List.mem_cons_self,
            isLast other (List.mem_cons_of_mem _ List.mem_cons_self)] at distinct
          simp [List.nodup_append] at distinct

/-! ### The last of several submissions -/

section Last

variable {content : batch}

theorem started_of_accepted
    (sound : Sound outcome limit (contents ++ [content]) state)
    (grows : jobs contents <+: state.started)
    (accepted : state.fates[contents.length]? = some .accepted) :
    state.started = jobs (contents ++ [content]) := by
  refine (sound.started_eq_jobs_or grows).resolve_left ?_
  intro same
  obtain ⟨job, started, number⟩ := sound.accounted.accepted contents.length accepted
  rw [same] at started
  exact absurd (number_lt_of_mem_jobs started) (by omega)

theorem started_of_waiting
    (sound : Sound outcome limit (contents ++ [content]) state)
    (grows : jobs contents <+: state.started)
    (waiting : state.fates[contents.length]? = some .waiting) :
    state.started = jobs contents := by
  refine (sound.started_eq_jobs_or grows).resolve_right ?_
  intro same
  have started : ⟨contents.length, content⟩ ∈ state.started := by
    rw [same, jobs_concat]
    exact List.mem_append_right _ List.mem_cons_self
  obtain accepted | givenUp := sound.accounted.taken _ started
  · cases waiting.symm.trans accepted
  · cases waiting.symm.trans givenUp

/-- A batch that waits although all before it were accepted is in the place. -/
theorem holds_of_waiting
    (sound : Sound outcome limit (contents ++ [content]) state)
    (robust : Robust outcome)
    (rests : state.ready = [])
    (earlier : ∀ number < contents.length, state.fates[number]? = some .accepted)
    (waiting : state.fates[contents.length]? = some .waiting) :
    state.place = .holds ⟨contents.length, content⟩ := by
  obtain empty | ⟨job, holds, held⟩ := state.held_cases
  · exact absurd empty (sound.held_ne_nil_of_waiting rests (List.mem_of_getElem? waiting))
  · have inPlace : job ∈ state.held := held ▸ List.mem_cons_self
    have late : ¬ job.number < contents.length := fun before =>
      sound.notMem_held_of_accepted robust (earlier _ before) inPlace
    have present : job ∈ state.batches := by
      refine List.mem_append_right _ ?_
      rw [sound.accounted.entered_eq (sound.not_allCrashed robust)]
      exact List.mem_append_right _ inPlace
    have known := sound.numbered.known job present
    have inside := (List.getElem?_eq_some_iff.mp known).1
    rw [List.length_append, List.length_singleton] at inside
    have number : job.number = contents.length := by omega
    rw [number, List.getElem?_concat_length] at known
    rw [holds, ← number, Option.some.inj known]

end Last

variable [DecidableEq batch] in
/-- Turns submit nothing. -/
theorem follow_turns
    (sound : Sound outcome limit submitted state)
    (tasks : List (Task batch)) :
    Sound outcome limit submitted (State.follow outcome state (tasks.map .turn)) := by
  induction tasks generalizing state with
  | nil => exact sound
  | cons task rest inductionHypothesis =>
      have first := sound.step (sound.ordered.step_act outcome (.turn task))
      rw [show state.submission (.turn task) = [] from rfl, List.append_nil] at first
      exact inductionHypothesis first

/-- A send that was started and has not ended belongs to a worker. -/
theorem exists_sending {job : Job batch}
    (sound : Sound outcome limit submitted state)
    (started : job ∈ state.started)
    (unfinished : job ∉ state.ended) :
    ∃ index : Nat, state.workers[index]? = some (.sending job) := by
  rw [sound.counted.started.mem_iff, List.mem_append] at started
  have sends := (state.mem_inProgress_iff job).mp (started.resolve_left unfinished)
  exact List.mem_iff_getElem?.mp sends

theorem length_started
    (sound : Sound outcome limit submitted state) :
    state.started.length = state.ended.length + state.inProgress.length := by
  rw [sound.counted.started.length_eq, List.length_append]

/-- A busy dispatcher has as many sends in progress as workers. -/
theorem length_inProgress_of_isBusy
    (sound : Sound outcome limit submitted state)
    (robust : Robust outcome)
    (proceeding : state.isStopping = false)
    (busy : state.IsBusy) :
    state.inProgress.length = max limit 1 := by
  have none : state.crashCount outcome = 0 :=
    List.countP_eq_zero.mpr (fun job _ crashes => robust job (of_decide_eq_true crashes))
  have nobody := (sound.counted.crashes_eq (Or.inl proceeding)).symm.trans none
  rw [← sound.counted.workers, state.inProgress_eq, List.length_filterMap_eq_countP,
    List.countP_eq_length]
  intro worker present
  have staffed := List.countP_eq_zero.mp nobody worker present
  obtain ⟨job, rfl⟩ := busy.2 worker present (Bool.eq_false_iff.mpr staffed)
  rfl

end Sound

/-! ## Events one at a time -/

/-- Everything waits, and the sends wait at a gate that is closed. -/
structure Resting (outcome : Job batch -> Outcome) (limit : Nat) (submitted : List batch)
    (state : State batch) : Prop where
  sound : Sound outcome limit submitted state
  rests : state.ready = []
  gated : state.Gated

/-- What has happened ended one send and gave up no submission. -/
structure Ends (job : Job batch) (state after : State batch) : Prop where
  gated : after.Gated
  ended : after.ended = state.ended ++ [job]
  stopping : after.isStopping = state.isStopping
  length : after.fates.length = state.fates.length
  givenUp : ∀ number : Nat, after.fates[number]? = some .givenUp ->
    state.fates[number]? = some .givenUp

theorem Ends.trans {job : Job batch} {state between after : State batch}
    (ends : Ends job state between)
    (quiet : Quiet between after) :
    Ends job state after where
  gated := quiet.gated
  ended := quiet.ended.trans ends.ended
  stopping := quiet.stopping.trans ends.stopping
  length := quiet.length.trans ends.length
  givenUp := fun number found => ends.givenUp number (quiet.givenUp number found)

/-- The state once the send of a worker is let through the gate. -/
def State.letThrough [DecidableEq batch] (state : State batch) (index : Nat) : State batch :=
  { state with
    gate := state.gate.filter (· != index)
    ready := woken state.ready [.worker index] }

namespace Resting

variable [DecidableEq batch] {outcome : Job batch -> Outcome} {limit index : Nat}
  {submitted contents : List batch} {state changed : State batch} {event : Event batch}
  {job : Job batch}

/-- After an event that ends no send everything rests again. -/
theorem step_event
    (resting : Resting outcome limit submitted state)
    (applied : state.apply event = .ok changed)
    (change : Change state contents changed)
    (gated : changed.Gated) :
    Resting outcome limit (submitted ++ contents) (State.step outcome state event).1 ∧
      Extends state (State.step outcome state event).1 ∧
      Quiet changed (State.step outcome state event).1 := by
  have changes := resting.sound.step (Step.changes change)
  obtain ⟨rests, tasks, same⟩ := State.settle_spec changes
  have quiet := Quiet.follow_turns outcome gated tasks
  have stepped : (State.step outcome state event).1 =
      State.follow outcome changed (tasks.map .turn) := by
    unfold State.step
    rw [applied, ← same]
  rw [same] at rests
  rw [stepped]
  exact ⟨⟨changes.follow_turns tasks, rests, quiet.gated⟩,
    (Extends.of_change change).trans (changes.extends_follow outcome (tasks.map .turn)), quiet⟩

/-- A worker whose send is let through ends it and then goes on quietly. -/
theorem workerTurn_of_sending
    (closed : state.permits = 0)
    (others : ∀ other sends, state.workers[other]? = some (.sending sends) ->
      other = index ∨ other ∈ state.gate)
    (sending : state.workers[index]? = some (.sending job))
    (through : index ∉ state.gate)
    (survives : outcome job ≠ .crashed) :
    Ends job state (State.workerTurn outcome state index) := by
  have freed : Ends job state (State.endSend outcome state index job) := by
    have gated : ({ state with ended := state.ended ++ [job] }.setWorker index .idle).Gated := by
      refine ⟨closed, ?_⟩
      intro other sends sendsOther
      change (state.workers.set index .idle)[other]? = some (.sending sends) at sendsOther
      by_cases same : index = other
      · subst same
        rw [List.getElem?_set_self (List.getElem?_eq_some_iff.mp sending).1] at sendsOther
        cases sendsOther
      · rw [List.getElem?_set_ne same] at sendsOther
        exact (others other sends sendsOther).resolve_left (fun equal => same equal.symm)
    unfold State.endSend
    cases ending : outcome job with
    | sent => exact ⟨⟨gated.closed, gated.inside⟩, rfl, rfl, rfl, fun _ found => found⟩
    | failed => exact ⟨gated, rfl, rfl, rfl, fun _ found => found⟩
    | crashed => exact absurd ending survives
  have stepped : State.workerStep outcome state index =
      State.seekIfIdle outcome (State.endSend outcome state index job) index := by
    unfold State.workerStep
    rw [sending]
    dsimp only
    rw [if_neg through]
  unfold State.workerTurn
  rw [stepped]
  have sought := freed.trans (Quiet.seekIfIdle outcome index freed.gated)
  exact sought.trans (Quiet.seekIfIdle outcome index sought.gated)

/-- The send of a worker that is let through ends at the first turn. -/
theorem act_of_letThrough
    (gated : state.Gated)
    (sending : state.workers[index]? = some (.sending job))
    (survives : outcome job ≠ .crashed) :
    Ends job state (State.act outcome (state.letThrough index) (.turn (.worker index))) := by
  have ready : .worker index ∈ (state.letThrough index).ready :=
    (mem_woken _ _ _).mpr (Or.inr List.mem_cons_self)
  have chance : State.act outcome (state.letThrough index) (.turn (.worker index)) =
      State.workerTurn outcome { state.letThrough index with
        ready := (state.letThrough index).ready.erase (.worker index) } index := by
    simp only [State.act]
    rw [if_pos ready]
    rfl
  have turn : Ends job
      { state.letThrough index with
        ready := (state.letThrough index).ready.erase (.worker index) }
      (State.act outcome (state.letThrough index) (.turn (.worker index))) := by
    rw [chance]
    refine workerTurn_of_sending gated.closed ?_ sending ?_ survives
    · intro other sends sendsOther
      by_cases same : other = index
      · exact Or.inl same
      · refine Or.inr (List.mem_filter.mpr ⟨gated.inside other sends sendsOther, ?_⟩)
        simpa using same
    · simp [State.letThrough]
  exact ⟨turn.gated, turn.ended, turn.stopping, turn.length, turn.givenUp⟩

/-- When the send of a worker is let through, it ends, and everything rests again. -/
theorem finish
    (resting : Resting outcome limit submitted state)
    (sending : state.workers[index]? = some (.sending job))
    (survives : outcome job ≠ .crashed) :
    Resting outcome limit submitted (State.step outcome state (.finish index)).1 ∧
      Extends state (State.step outcome state (.finish index)).1 ∧
      Ends job state (State.step outcome state (.finish index)).1 := by
  have gated := resting.gated.inside index job sending
  have change : Change state [] (state.letThrough index) := Change.finish state index gated
  have changes := resting.sound.step (Step.changes change)
  rw [List.append_nil] at changes
  have line : (state.letThrough index).ready = [.worker index] := by
    unfold State.letThrough
    rw [resting.rests]
    rfl
  obtain ⟨rests, -⟩ := State.settle_spec changes
  obtain ⟨tasks, same⟩ := State.settle_of_ready_cons changes line
  have stepped : (State.step outcome state (.finish index)).1 =
      State.settle outcome (state.letThrough index) := by
    have applied : state.apply (.finish index) = .ok (state.letThrough index) := by
      simp only [State.apply]
      rw [if_pos gated, State.wake_eq]
      rfl
    unfold State.step
    rw [applied]
  have first := act_of_letThrough resting.gated sending survives
  have ends := first.trans (Quiet.follow_turns outcome first.gated tasks)
  rw [stepped]
  rw [same] at rests ⊢
  have turns : State.follow outcome
      (State.act outcome (state.letThrough index) (.turn (.worker index))) (tasks.map .turn) =
        State.follow outcome (state.letThrough index)
          ((.worker index :: tasks).map .turn) := rfl
  refine ⟨⟨?_, rests, ends.gated⟩, ?_, ends⟩
  · rw [turns]
    exact changes.follow_turns (.worker index :: tasks)
  · rw [turns]
    exact (Extends.of_change change).trans (changes.extends_follow outcome _)

end Resting

/-! ## All submissions accepted -/

/-- Everything rests, and every batch that was submitted has been taken, in order. -/
structure Steady (outcome : Job batch -> Outcome) (limit : Nat) (contents : List batch)
    (ended : List (Job batch)) (state : State batch) : Prop
    extends Resting outcome limit contents state where
  accepted : ∀ number < contents.length, state.fates[number]? = some .accepted
  started : state.started = jobs contents
  ended : state.ended = ended

/-- Everything rests, and every batch but the last has been taken; the last is in the queue. -/
structure Stalling (outcome : Job batch -> Outcome) (limit : Nat) (contents : List batch)
    (content : batch) (ended : List (Job batch)) (state : State batch) : Prop
    extends Resting outcome limit (contents ++ [content]) state where
  accepted : ∀ number < contents.length, state.fates[number]? = some .accepted
  waiting : state.fates[contents.length]? = some .waiting
  holds : state.place = .holds ⟨contents.length, content⟩
  started : state.started = jobs contents
  ended : state.ended = ended

namespace Steady

variable {outcome : Job batch -> Outcome} {limit : Nat} {contents : List batch}
  {ended : List (Job batch)} {state : State batch} {content : batch} {job : Job batch}

theorem waiting_notMem (steady : Steady outcome limit contents ended state) :
    .waiting ∉ state.fates := by
  intro waiting
  obtain ⟨number, found⟩ := List.mem_iff_getElem?.mp waiting
  have inside := (List.getElem?_eq_some_iff.mp found).1
  rw [← steady.sound.numbered.length] at inside
  cases found.symm.trans (steady.accepted number inside)

/-- Sends that were started and have not ended are in progress. -/
theorem length_inProgress (steady : Steady outcome limit contents ended state) :
    contents.length = ended.length + state.inProgress.length := by
  rw [← steady.ended, ← steady.sound.length_started, steady.started, length_jobs]

variable [DecidableEq batch]

/-- A dispatcher has taken nothing at its start. -/
theorem start (outcome : Job batch -> Outcome) (limit : Nat) :
    Steady outcome limit [] [] (State.start outcome limit) ∧
      (State.start outcome limit).isStopping = false := by
  have fresh := Sound.fresh outcome limit
  obtain ⟨rests, tasks, same⟩ := State.settle_spec fresh
  have gated : (State.fresh limit : State batch).Gated := by
    refine ⟨rfl, ?_⟩
    intro index job sending
    obtain ⟨-, idle⟩ := List.mem_replicate.mp (List.mem_of_getElem? sending)
    cases idle
  have quiet := Quiet.follow_turns outcome gated tasks
  have sound := fresh.follow_turns tasks
  rw [← same] at quiet sound
  refine ⟨⟨⟨sound, rests, quiet.gated⟩, ?_, ?_, quiet.ended⟩, quiet.stopping⟩
  · intro number never
    cases never
  · refine sound.started_eq_jobs ?_
    exact List.nil_prefix

/-- When the send of a batch is let through, it ends, and nothing else happens. -/
theorem finish
    (steady : Steady outcome limit contents ended state)
    (robust : Robust outcome)
    (started : job ∈ jobs contents)
    (unfinished : job ∉ ended) :
    ∃ index, Steady outcome limit contents (ended ++ [job])
        (State.step outcome state (.finish index)).1 ∧
      (State.step outcome state (.finish index)).1.isStopping = state.isStopping := by
  obtain ⟨index, sending⟩ := steady.sound.exists_sending (steady.started ▸ started)
    (steady.ended ▸ unfinished)
  obtain ⟨resting, extended, ends⟩ := steady.toResting.finish sending (robust job)
  refine ⟨index, ⟨resting, ?_, ?_, ?_⟩, ends.stopping⟩
  · intro number inside
    exact extended.decided number .accepted Fate.noConfusion (steady.accepted number inside)
  · exact resting.sound.started_eq_jobs (steady.started ▸ extended.started)
  · rw [ends.ended, steady.ended]

/-- Once a batch is submitted, either a worker has taken it, or it waits in the queue. -/
theorem submit_cases
    (steady : Steady outcome limit contents ended state)
    (robust : Robust outcome)
    (proceeding : state.isStopping = false)
    (content : batch) :
    (Steady outcome limit (contents ++ [content]) ended
        (State.step outcome state (.submit content)).1 ∨
      Stalling outcome limit contents content ended
        (State.step outcome state (.submit content)).1) ∧
      (State.step outcome state (.submit content)).1.isStopping = false := by
  have applied : state.apply (.submit content) = .ok
      { state with
        fates := state.fates ++ [.waiting]
        ready := woken state.ready [.entry ⟨state.fates.length, content⟩] } := by
    simp only [State.apply]
    rw [if_neg (by simp [proceeding]), State.wake_eq]
  obtain ⟨resting, extended, quiet⟩ := steady.toResting.step_event applied
    (Change.submit state content proceeding) ⟨steady.gated.closed, steady.gated.inside⟩
  generalize (State.step outcome state (.submit content)).1 = after at resting extended quiet ⊢
  refine ⟨?_, quiet.stopping.trans proceeding⟩
  have earlier : ∀ number < contents.length, after.fates[number]? = some .accepted := by
    intro number inside
    exact extended.decided number .accepted Fate.noConfusion (steady.accepted number inside)
  have grows : jobs contents <+: after.started := steady.started ▸ extended.started
  have ends : after.ended = ended := quiet.ended.trans steady.ended
  cases last : after.fates[contents.length]? with
  | none =>
      have short := List.getElem?_eq_none_iff.mp last
      rw [← resting.sound.numbered.length, List.length_append, List.length_singleton] at short
      omega
  | some fate =>
      cases fate with
      | accepted =>
          refine Or.inl ⟨resting, ?_, resting.sound.started_of_accepted grows last, ends⟩
          intro number inside
          rw [List.length_append, List.length_singleton] at inside
          obtain before | same := Nat.lt_or_eq_of_le (Nat.le_of_lt_succ inside)
          · exact earlier number before
          · exact same ▸ last
      | waiting =>
          exact Or.inr ⟨resting, earlier, last,
            resting.sound.holds_of_waiting robust resting.rests earlier last,
            resting.sound.started_of_waiting grows last, ends⟩
      | givenUp =>
          have waits : (state.fates ++ [.waiting])[contents.length]? = some .waiting := by
            rw [steady.sound.numbered.length, List.getElem?_concat_length]
          cases waits.symm.trans (quiet.givenUp _ last)
      | refused =>
          exact absurd (resting.sound.accounted.refused (List.mem_of_getElem? last))
            (resting.sound.not_allCrashed robust)

/-- A batch that is submitted while a worker is free is taken at once. -/
theorem submit
    (steady : Steady outcome limit contents ended state)
    (robust : Robust outcome)
    (proceeding : state.isStopping = false)
    (room : contents.length < ended.length + max limit 1)
    (content : batch) :
    Steady outcome limit (contents ++ [content]) ended
        (State.step outcome state (.submit content)).1 ∧
      (State.step outcome state (.submit content)).1.isStopping = false := by
  obtain ⟨taken | stalls, goesOn⟩ := steady.submit_cases robust proceeding content
  · exact ⟨taken, goesOn⟩
  · have busy := stalls.sound.isBusy_of_waiting stalls.rests (List.mem_of_getElem? stalls.waiting)
    have full := stalls.sound.length_inProgress_of_isBusy robust goesOn busy
    have started := stalls.sound.length_started
    rw [stalls.started, stalls.ended, length_jobs] at started
    omega

/-- A batch that is submitted while every worker is busy waits in the queue. -/
theorem submit_of_full
    (steady : Steady outcome limit contents ended state)
    (robust : Robust outcome)
    (proceeding : state.isStopping = false)
    (full : contents.length = ended.length + max limit 1)
    (content : batch) :
    Stalling outcome limit contents content ended
        (State.step outcome state (.submit content)).1 ∧
      (State.step outcome state (.submit content)).1.isStopping = false := by
  obtain ⟨taken | stalls, goesOn⟩ := steady.submit_cases robust proceeding content
  · have started := taken.length_inProgress
    have bounded := taken.sound.inProgress_length_le
    rw [List.length_append, List.length_singleton] at started
    omega
  · exact ⟨stalls, goesOn⟩

/-- Once no submission waits, a dispatcher may be shut down. -/
theorem shutdown
    (steady : Steady outcome limit contents ended state)
    (proceeding : state.isStopping = false) :
    Steady outcome limit contents ended (State.step outcome state .shutdown).1 ∧
      (State.step outcome state .shutdown).1.isStopping = true := by
  have applied : state.apply .shutdown = .ok
      { state with
        isStopping := true
        ready := woken state.ready state.receiverTasks } := by
    simp only [State.apply]
    rw [if_neg (by simp [proceeding]), if_neg steady.waiting_notMem, State.wakeReceiver_eq]
    rfl
  obtain ⟨resting, extended, quiet⟩ := steady.toResting.step_event applied
    (Change.stop state proceeding steady.waiting_notMem)
    ⟨steady.gated.closed, steady.gated.inside⟩
  rw [List.append_nil] at resting
  refine ⟨⟨resting, ?_, ?_, quiet.ended.trans steady.ended⟩, quiet.stopping⟩
  · intro number inside
    exact extended.decided number .accepted Fate.noConfusion (steady.accepted number inside)
  · exact resting.sound.started_eq_jobs (steady.started ▸ extended.started)

omit [DecidableEq batch] in
/-- A dispatcher that was asked to shut down has done so once every send has ended. -/
theorem isShutDown_iff
    (steady : Steady outcome limit contents ended state)
    (stopping : state.isStopping = true) :
    state.isShutDown = true ↔ contents.length = ended.length := by
  have started := steady.length_inProgress
  constructor
  · intro done
    cases sends : state.inProgress with
    | nil =>
        rw [sends, List.length_nil] at started
        exact started
    | cons job rest =>
        have present : job ∈ state.inProgress := sends ▸ List.mem_cons_self
        have deserted := (Bool.and_eq_true_iff.mp done).2
        have gone := List.countP_eq_length.mp (state.isDeserted_iff.mp deserted)
        exact absurd (gone _ ((state.mem_inProgress_iff job).mp present)) (by simp [Worker.isGone])
  · intro same
    have nothing : state.inProgress = [] := List.eq_nil_of_length_eq_zero (by omega)
    exact steady.sound.isShutDown_of_inProgress_eq_nil steady.rests nothing stopping

end Steady

namespace Stalling

variable [DecidableEq batch] {outcome : Job batch -> Outcome} {limit : Nat}
  {contents : List batch} {ended : List (Job batch)} {state : State batch} {content : batch}
  {job : Job batch}

/-- When a send ends, the batch in the queue is taken. -/
theorem finish
    (stalls : Stalling outcome limit contents content ended state)
    (robust : Robust outcome)
    (started : job ∈ jobs contents)
    (unfinished : job ∉ ended) :
    ∃ index, Steady outcome limit (contents ++ [content]) (ended ++ [job])
        (State.step outcome state (.finish index)).1 ∧
      (State.step outcome state (.finish index)).1.isStopping = state.isStopping := by
  obtain ⟨index, sending⟩ := stalls.sound.exists_sending (stalls.started ▸ started)
    (stalls.ended ▸ unfinished)
  obtain ⟨resting, extended, ends⟩ := stalls.toResting.finish sending (robust job)
  have taken := stalls.sound.mem_started_finish stalls.rests stalls.holds sending (robust job)
  have last : (State.step outcome state (.finish index)).1.fates[contents.length]? =
      some .accepted := by
    refine (resting.sound.accounted.taken _ taken).resolve_right ?_
    intro givenUp
    cases stalls.waiting.symm.trans (ends.givenUp _ givenUp)
  refine ⟨index, ⟨resting, ?_, ?_, ?_⟩, ends.stopping⟩
  · intro number inside
    rw [List.length_append, List.length_singleton] at inside
    obtain before | same := Nat.lt_or_eq_of_le (Nat.le_of_lt_succ inside)
    · exact extended.decided number .accepted Fate.noConfusion (stalls.accepted number before)
    · exact same ▸ last
  · exact resting.sound.started_of_accepted (stalls.started ▸ extended.started) last
  · rw [ends.ended, stalls.ended]

end Stalling
end Dispatch
end Telemetry
