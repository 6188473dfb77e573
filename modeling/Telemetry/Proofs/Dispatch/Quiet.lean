import Telemetry.Proofs.Dispatch.Counts

/-!
# Turns while the gate is closed

As long as the gate lets no send through, nothing that goes on ends a send or
gives up a submission.
-/

namespace Telemetry
namespace Dispatch

variable {batch : Type}

/-- Every send waits at the gate, and the gate lets none through. -/
structure State.Gated (state : State batch) : Prop where
  closed : state.permits = 0
  inside : ∀ index job, state.workers[index]? = some (.sending job) -> index ∈ state.gate

/-- What has happened ended no send and gave up no submission. -/
structure Quiet (state after : State batch) : Prop where
  gated : after.Gated
  ended : after.ended = state.ended
  stopping : after.isStopping = state.isStopping
  length : after.fates.length = state.fates.length
  givenUp : ∀ number : Nat, after.fates[number]? = some .givenUp ->
    state.fates[number]? = some .givenUp

namespace Quiet

variable {state between after : State batch}

theorem refl (gated : state.Gated) : Quiet state state :=
  ⟨gated, rfl, rfl, rfl, fun _ found => found⟩

theorem trans (early : Quiet state between) (late : Quiet between after) : Quiet state after where
  gated := late.gated
  ended := late.ended.trans early.ended
  stopping := late.stopping.trans early.stopping
  length := late.length.trans early.length
  givenUp := fun number found => early.givenUp number (late.givenUp number found)

/-- What leaves the workers, the gate and the fates alone is quiet. -/
theorem of_eq
    (gated : state.Gated)
    (workers : after.workers = state.workers)
    (gate : after.gate = state.gate)
    (permits : after.permits = state.permits)
    (ended : after.ended = state.ended)
    (stopping : after.isStopping = state.isStopping)
    (fates : after.fates = state.fates) :
    Quiet state after where
  gated := by
    refine ⟨permits.trans gated.closed, ?_⟩
    rw [workers, gate]
    exact gated.inside
  ended := ended
  stopping := stopping
  length := congrArg List.length fates
  givenUp := by
    intro number found
    rwa [fates] at found

/-- Settling a fate otherwise than by giving up is quiet. -/
theorem of_settled {number : Nat} {fate : Fate}
    (gated : state.Gated)
    (different : fate ≠ .givenUp)
    (workers : after.workers = state.workers)
    (gate : after.gate = state.gate)
    (permits : after.permits = state.permits)
    (ended : after.ended = state.ended)
    (stopping : after.isStopping = state.isStopping)
    (fates : after.fates = settledFates state.fates number fate) :
    Quiet state after where
  gated := by
    refine ⟨permits.trans gated.closed, ?_⟩
    rw [workers, gate]
    exact gated.inside
  ended := ended
  stopping := stopping
  length := by rw [fates, length_settledFates]
  givenUp := by
    intro other found
    rw [fates] at found
    exact settledFates_old found different.symm

theorem setWorker {worker : Worker batch}
    (gated : state.Gated)
    (index : Nat)
    (rests : worker.job? = none) :
    Quiet state (state.setWorker index worker) where
  gated := by
    refine ⟨gated.closed, ?_⟩
    intro other job sending
    change (state.workers.set index worker)[other]? = some (.sending job) at sending
    by_cases same : index = other
    · subst same
      have inside := (List.getElem?_eq_some_iff.mp sending).1
      rw [List.length_set] at inside
      rw [List.getElem?_set_self inside] at sending
      cases sending
      cases rests
    · rw [List.getElem?_set_ne same] at sending
      exact gated.inside other job sending
  ended := rfl
  stopping := rfl
  length := rfl
  givenUp := fun _ found => found

variable {outcome : Job batch -> Outcome} {index : Nat}

variable (outcome index) in
/-- A send that is started waits at the gate. -/
theorem startSend
    (gated : state.Gated)
    (job : Job batch) :
    Quiet state (State.startSend outcome state index job) := by
  unfold State.startSend
  dsimp only
  rw [if_neg (by simp [State.setWorker, gated.closed])]
  refine ⟨⟨gated.closed, ?_⟩, rfl, rfl, rfl, fun _ found => found⟩
  intro other sends sending
  change (state.workers.set index (.sending job))[other]? = some (.sending sends) at sending
  change other ∈ state.gate ++ [index]
  by_cases same : index = other
  · exact List.mem_append_right _ (List.mem_singleton.mpr same.symm)
  · rw [List.getElem?_set_ne same] at sending
    exact List.mem_append_left _ (gated.inside other sends sending)

variable [DecidableEq batch]

variable (outcome index) in
theorem receive (gated : state.Gated) : Quiet state (State.receive outcome state index) := by
  unfold State.receive
  split
  next job holds =>
    have taken : Quiet state (state.makeRoom.passTurn.settleFate job.number .accepted) := by
      rw [State.take_eq]
      exact of_settled gated Fate.noConfusion rfl rfl rfl rfl rfl rfl
    exact taken.trans (startSend outcome index taken.gated job)
  next =>
    split
    next stopping =>
      have gone : Quiet state (state.setWorker index .gone) := setWorker gated index rfl
      rw [State.passTurn_eq]
      exact gone.trans (of_eq gone.gated rfl rfl rfl rfl rfl rfl)
    next proceeding => exact setWorker gated index rfl

variable (outcome index) in
theorem seek (gated : state.Gated) : Quiet state (State.seek outcome state index) := by
  unfold State.seek
  split
  next vacant =>
    have claims : Quiet state { state with receiver := some index } :=
      of_eq gated rfl rfl rfl rfl rfl rfl
    exact claims.trans (receive outcome index claims.gated)
  next other turn =>
    have lines : Quiet state { state with turns := state.turns ++ [index] } :=
      of_eq gated rfl rfl rfl rfl rfl rfl
    exact lines.trans (setWorker lines.gated index rfl)

variable (outcome index) in
theorem seekIfIdle (gated : state.Gated) :
    Quiet state (State.seekIfIdle outcome state index) := by
  unfold State.seekIfIdle
  split
  · exact seek outcome index gated
  · exact refl gated

variable (outcome index) in
theorem workerStep (gated : state.Gated) :
    Quiet state (State.workerStep outcome state index) := by
  unfold State.workerStep
  split
  next idle => exact seek outcome index gated
  next queueing =>
    split
    · exact receive outcome index gated
    · exact refl gated
  next receiving => exact receive outcome index gated
  next job sending =>
    rw [if_pos (gated.inside index job sending)]
    exact refl gated
  next => exact refl gated

variable (outcome index) in
theorem workerTurn (gated : state.Gated) :
    Quiet state (State.workerTurn outcome state index) := by
  have steps := workerStep outcome index gated
  exact steps.trans (seekIfIdle outcome index steps.gated)

theorem of_admission
    (gated : state.Gated)
    (admission : Admission state after) :
    Quiet state after := by
  cases admission with
  | dismiss job ready decided => exact of_eq gated rfl rfl rfl rfl rfl rfl
  | refuse job ready awaited deserted =>
      exact of_settled gated Fate.noConfusion rfl rfl rfl rfl rfl rfl
  | enter job ready awaited staffed room => exact of_eq gated rfl rfl rfl rfl rfl rfl
  | line job ready awaited staffed full => exact of_eq gated rfl rfl rfl rfl rfl rfl

variable (outcome) in
/-- What goes on while the gate is closed ends no send and gives up no submission. -/
theorem act_turn
    (gated : state.Gated)
    (task : Task batch) :
    Quiet state (State.act outcome state (.turn task)) := by
  simp only [State.act]
  split
  next ready =>
    cases task with
    | worker index =>
        have chance : Quiet state { state with ready := state.ready.erase (.worker index) } :=
          of_eq gated rfl rfl rfl rfl rfl rfl
        exact chance.trans (workerTurn outcome index chance.gated)
    | entry job => exact of_admission gated (State.admission_entryTurn ready)
  next => exact refl gated

variable (outcome) in
theorem follow_turns
    (gated : state.Gated)
    (tasks : List (Task batch)) :
    Quiet state (State.follow outcome state (tasks.map .turn)) := by
  induction tasks generalizing state with
  | nil => exact refl gated
  | cons task rest inductionHypothesis =>
      have first := act_turn outcome gated task
      exact first.trans (inductionHypothesis first.gated)

end Quiet
end Dispatch
end Telemetry
