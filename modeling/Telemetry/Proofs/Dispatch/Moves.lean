import Mathlib.Logic.Relation
import Telemetry.Proofs.Dispatch.Parts

/-!
# What a turn and an event can do

A turn of a worker is a chain of moves that ends where the worker halts.  A
turn of a batch and an event are one change each.  Every guard that was checked
on the way is kept, so that an invariant is shown by cases on what can happen
and never by looking into a turn again.
-/

namespace Telemetry
namespace Dispatch

variable {batch : Type}

/-! ## Moves of a worker -/

/-- The worker has the turn to receive, or gets it because nobody has it. -/
inductive MayReceive (state : State batch) (index : Nat) : Prop where
  /-- It is free, and nobody has the turn. -/
  | unclaimed (idle : state.workers[index]? = some .idle) (vacant : state.receiver = none)
  /-- The turn was passed on to it. -/
  | passed (queueing : state.workers[index]? = some .queueing)
      (turn : state.receiver = some index)
  /-- It waited for a batch. -/
  | waited (receiving : state.workers[index]? = some .receiving)
      (turn : state.receiver = some index)

theorem MayReceive.lt_length {state : State batch} {index : Nat}
    (may : MayReceive state index) :
    index < state.workers.length := by
  cases may with
  | unclaimed found _ => exact (List.getElem?_eq_some_iff.mp found).1
  | passed found _ => exact (List.getElem?_eq_some_iff.mp found).1
  | waited found _ => exact (List.getElem?_eq_some_iff.mp found).1

theorem MayReceive.eq_of_receiver {state : State batch} {index other : Nat}
    (may : MayReceive state index)
    (turn : state.receiver = some other) :
    other = index := by
  cases may with
  | unclaimed _ vacant => cases vacant.symm.trans turn
  | passed _ own => exact (Option.some.inj (own.symm.trans turn)).symm
  | waited _ own => exact (Option.some.inj (own.symm.trans turn)).symm

variable [DecidableEq batch]

/-- What a worker does after which it goes on. -/
inductive Move (outcome : Job batch -> Outcome) (index : Nat) :
    State batch -> State batch -> Prop where
  /-- It takes the batch in the place and starts to send it. -/
  | take (state : State batch) (job : Job batch)
      (may : MayReceive state index) (holds : state.place = .holds job) :
      Move outcome index state
        { state with
          workers := state.workers.set index (.sending job)
          place := offered state.pending
          pending := state.pending.tail
          receiver := state.turns.head?
          turns := state.turns.tail
          fates := settledFates state.fates job.number .accepted
          ready := woken (woken state.ready (state.pending.head?.toList.map .entry))
            (state.turns.head?.toList.map .worker)
          started := state.started ++ [job] }
  /-- The gate lets its send through at once. -/
  | pass (state : State batch) :
      Move outcome index state { state with permits := state.permits - 1 }
  /-- Its send ends, and it is free again. -/
  | finish (state : State batch) (job : Job batch)
      (sending : state.workers[index]? = some (.sending job))
      (survives : outcome job ≠ .crashed) :
      Move outcome index state
        { state with
          workers := state.workers.set index .idle
          ended := state.ended ++ [job]
          sent := if outcome job = .sent then state.sent ++ [job] else state.sent }

/-- What a worker does after which it waits or is gone. -/
inductive Halt (outcome : Job batch -> Outcome) (index : Nat) :
    State batch -> State batch -> Prop where
  /-- There is nothing for it to do. -/
  | rest (state : State batch)
      (nothing : ∀ worker, state.workers[index]? = some worker ->
        worker = .gone ∨ worker = .queueing ∧ state.receiver ≠ some index) :
      Halt outcome index state state
  /-- It waits for its turn to receive. -/
  | queue (state : State batch) (other : Nat)
      (idle : state.workers[index]? = some .idle) (turn : state.receiver = some other) :
      Halt outcome index state
        { state with
          workers := state.workers.set index .queueing
          turns := state.turns ++ [index] }
  /-- It has the turn and waits for a batch. -/
  | await (state : State batch)
      (may : MayReceive state index) (empty : state.held = [])
      (proceeding : state.isStopping = false) :
      Halt outcome index state
        { state with
          workers := state.workers.set index .receiving
          receiver := some index }
  /-- It finds the queue closed and stops. -/
  | exit (state : State batch)
      (may : MayReceive state index) (empty : state.held = [])
      (stopping : state.isStopping = true) :
      Halt outcome index state
        { state with
          workers := state.workers.set index .gone
          receiver := state.turns.head?
          turns := state.turns.tail
          ready := woken state.ready (state.turns.head?.toList.map .worker) }
  /-- Its send waits at the gate. -/
  | block (state : State batch) (job : Job batch)
      (sending : state.workers[index]? = some (.sending job)) :
      Halt outcome index state { state with gate := state.gate ++ [index] }
  /-- It breaks down, and another worker is left. -/
  | crash (state : State batch) (job : Job batch)
      (sending : state.workers[index]? = some (.sending job))
      (crashes : outcome job = .crashed)
      (others : (state.workers.set index .gone).all (fun worker => worker matches .gone) = false) :
      Halt outcome index state
        { state with
          workers := state.workers.set index .gone
          ended := state.ended ++ [job] }
  /-- It breaks down, and no worker is left. -/
  | crashLast (state : State batch) (job : Job batch)
      (sending : state.workers[index]? = some (.sending job))
      (crashes : outcome job = .crashed)
      (alone : (state.workers.set index .gone).all (fun worker => worker matches .gone) = true) :
      Halt outcome index state
        { state with
          workers := state.workers.set index .gone
          ended := state.ended ++ [job]
          place := .free
          pending := []
          fates := state.fates.map fun fate => if fate = .waiting then .refused else fate }

/-- Any number of moves of a worker. -/
abbrev Moves (outcome : Job batch -> Outcome) (index : Nat) :
    State batch -> State batch -> Prop :=
  Relation.ReflTransGen (Move outcome index)

/-- All that a worker does in one go. -/
def Goes (outcome : Job batch -> Outcome) (index : Nat) (state after : State batch) : Prop :=
  ∃ between, Moves outcome index state between ∧ Halt outcome index between after

/-- What every move keeps and every halt turns into a conclusion holds after a turn. -/
theorem Goes.preserves {outcome : Job batch -> Outcome} {index : Nat}
    {state after : State batch} (Going Halted : State batch -> Prop)
    (goes : Goes outcome index state after)
    (start : Going state)
    (move : ∀ {early late}, Going early -> Move outcome index early late -> Going late)
    (halt : ∀ {early late}, Going early -> Halt outcome index early late -> Halted late) :
    Halted after := by
  obtain ⟨between, moves, halting⟩ := goes
  refine halt ?_ halting
  clear halting
  induction moves with
  | refl => exact start
  | tail _ step inductionHypothesis => exact move inductionHypothesis step

/-! ## Changes by batches and events -/

/-- What a batch can do that has not entered the queue. -/
inductive Admission : State batch -> State batch -> Prop where
  /-- Its producer waits no longer. -/
  | dismiss (state : State batch) (job : Job batch)
      (ready : .entry job ∈ state.ready) (decided : state.fates[job.number]? ≠ some .waiting) :
      Admission state { state with ready := state.ready.erase (.entry job) }
  /-- No worker is left. -/
  | refuse (state : State batch) (job : Job batch)
      (ready : .entry job ∈ state.ready) (awaited : state.fates[job.number]? = some .waiting)
      (deserted : state.isDeserted = true) :
      Admission state
        { state with
          ready := state.ready.erase (.entry job)
          fates := settledFates state.fates job.number .refused }
  /-- The place is free, or was promised to it. -/
  | enter (state : State batch) (job : Job batch)
      (ready : .entry job ∈ state.ready) (awaited : state.fates[job.number]? = some .waiting)
      (staffed : state.isDeserted = false)
      (room : state.place = .free ∨ state.place = .promised job) :
      Admission state
        { state with
          ready := woken (state.ready.erase (.entry job)) state.receiverTasks
          place := .holds job
          entered := state.entered ++ [job] }
  /-- It waits for room. -/
  | line (state : State batch) (job : Job batch)
      (ready : .entry job ∈ state.ready) (awaited : state.fates[job.number]? = some .waiting)
      (staffed : state.isDeserted = false)
      (full : state.place ≠ .free ∧ state.place ≠ .promised job) :
      Admission state
        { state with
          ready := state.ready.erase (.entry job)
          pending := state.pending ++ [job] }

/-- What an event can do, and what it submits. -/
inductive Change : State batch -> List batch -> State batch -> Prop where
  /-- A batch is submitted. -/
  | submit (state : State batch) (content : batch) (proceeding : state.isStopping = false) :
      Change state [content]
        { state with
          fates := state.fates ++ [.waiting]
          ready := woken state.ready [.entry ⟨state.fates.length, content⟩] }
  /-- The producer of a batch waits no longer that was not promised the place. -/
  | giveUp (state : State batch) (number : Nat)
      (awaited : state.fates[number]? = some .waiting)
      (unpromised : ∀ job, state.place = .promised job -> job.number ≠ number) :
      Change state []
        { state with
          fates := settledFates state.fates number .givenUp
          pending := state.pending.filter fun job => job.number != number }
  /-- The producer of the batch waits no longer that was promised the place. -/
  | decline (state : State batch) (job : Job batch)
      (awaited : state.fates[job.number]? = some .waiting)
      (promised : state.place = .promised job) :
      Change state []
        { state with
          fates := settledFates state.fates job.number .givenUp
          place := offered (state.pending.filter fun other => other.number != job.number)
          pending := (state.pending.filter fun other => other.number != job.number).tail
          ready := woken state.ready
            ((state.pending.filter fun other => other.number != job.number).head?.toList.map
              .entry) }
  /-- Sends are let through the gate. -/
  | release (state : State batch) (count permits : Nat) :
      Change state []
        { state with
          gate := state.gate.drop count
          permits
          ready := woken state.ready ((state.gate.take count).map .worker) }
  /-- The send of one worker is let through the gate. -/
  | finish (state : State batch) (index : Nat) (present : index ∈ state.gate) :
      Change state []
        { state with
          gate := state.gate.filter (· != index)
          ready := woken state.ready [.worker index] }
  /-- The dispatcher is shut down. -/
  | stop (state : State batch) (proceeding : state.isStopping = false)
      (settled : .waiting ∉ state.fates) :
      Change state []
        { state with
          isStopping := true
          ready := woken state.ready state.receiverTasks }

/-! ## A turn of a worker as a chain of moves -/

namespace State

variable {outcome : Job batch -> Outcome} {index : Nat} {state : State batch}

/--
Where part of a turn leaves a worker: either it has halted, or it is free once
more and finds nothing in the place.
-/
def Reaches (outcome : Job batch -> Outcome) (index : Nat) (state after : State batch) : Prop :=
  Goes outcome index state after ∧ after.workers[index]? ≠ some .idle ∨
    Moves outcome index state after ∧ after.workers[index]? = some .idle ∧ after.held = []

theorem Reaches.after_move {between after : State batch}
    (move : Move outcome index state between)
    (reaches : Reaches outcome index between after) :
    Reaches outcome index state after := by
  obtain ⟨⟨last, moves, halt⟩, halted⟩ | ⟨moves, free⟩ := reaches
  · exact Or.inl ⟨⟨last, Relation.ReflTransGen.head move moves, halt⟩, halted⟩
  · exact Or.inr ⟨Relation.ReflTransGen.head move moves, free⟩

theorem Reaches.of_halt {after : State batch}
    (halt : Halt outcome index state after)
    (halted : after.workers[index]? ≠ some .idle) :
    Reaches outcome index state after :=
  Or.inl ⟨⟨state, Relation.ReflTransGen.refl, halt⟩, halted⟩

variable (outcome) in
/-- A send that has ended leaves its worker gone, or free with the place unchanged. -/
theorem endSend_cases {job : Job batch}
    (sending : state.workers[index]? = some (.sending job)) :
    Halt outcome index state (endSend outcome state index job) ∧
        (endSend outcome state index job).workers[index]? ≠ some .idle ∨
      Move outcome index state (endSend outcome state index job) ∧
        (endSend outcome state index job).workers[index]? = some .idle ∧
        (endSend outcome state index job).held = state.held := by
  have inside : index < state.workers.length := (List.getElem?_eq_some_iff.mp sending).1
  unfold endSend
  cases ending : outcome job with
  | sent =>
      have move : Move outcome index state _ := Move.finish state job sending (by simp [ending])
      rw [if_pos ending] at move
      exact Or.inr ⟨move, List.getElem?_set_self inside, rfl⟩
  | failed =>
      have move : Move outcome index state _ := Move.finish state job sending (by simp [ending])
      rw [if_neg (by simp [ending])] at move
      exact Or.inr ⟨move, List.getElem?_set_self inside, rfl⟩
  | crashed =>
      refine Or.inl ?_
      dsimp only
      unfold closeIfDeserted
      split
      next alone =>
        refine ⟨Halt.crashLast state job sending ending alone, ?_⟩
        simp [setWorker, inside]
      next others =>
        refine ⟨Halt.crash state job sending ending (Bool.not_eq_true _ ▸ others), ?_⟩
        simp [setWorker, inside]

variable (outcome) in
theorem endSend_reaches {job : Job batch}
    (sending : state.workers[index]? = some (.sending job))
    (empty : state.held = []) :
    Reaches outcome index state (endSend outcome state index job) := by
  obtain ⟨halt, halted⟩ | ⟨move, idle, same⟩ := endSend_cases outcome sending
  · exact Reaches.of_halt halt halted
  · exact Or.inr ⟨Relation.ReflTransGen.single move, idle, same.trans empty⟩

theorem receive_of_held_eq_nil (outcome : Job batch -> Outcome) (index : Nat)
    {state : State batch} (empty : state.held = []) :
    receive outcome state index =
      if state.isStopping then (state.setWorker index .gone).passTurn
      else state.setWorker index .receiving := by
  unfold receive
  split
  next job holds => simp [held, holds] at empty
  next => rfl

variable (outcome) in
/-- A worker that receives from an empty place halts. -/
theorem halt_receive_of_held_eq_nil (may : MayReceive state index) (empty : state.held = []) :
    Halt outcome index state (receive outcome { state with receiver := some index } index) ∧
      (receive outcome { state with receiver := some index } index).workers[index]? ≠
        some .idle := by
  have inside := may.lt_length
  have stillEmpty : State.held { state with receiver := some index } = [] := empty
  have received := receive_of_held_eq_nil outcome index stillEmpty
  rw [received]
  split
  next stopping =>
    rw [passTurn_eq]
    exact ⟨Halt.exit state may empty stopping, by simp [setWorker, inside]⟩
  next proceeding =>
    have proceeding : state.isStopping = false := Bool.not_eq_true _ ▸ proceeding
    exact ⟨Halt.await state may empty proceeding, by simp [setWorker, inside]⟩

variable (outcome) in
/-- A worker that receives takes the batch in the place, if there is one. -/
theorem receive_reaches (may : MayReceive state index) :
    Reaches outcome index state
      (receive outcome { state with receiver := some index } index) := by
  obtain empty | ⟨job, holds, -⟩ := state.held_cases
  · obtain ⟨halt, halted⟩ := halt_receive_of_held_eq_nil outcome may empty
    exact Reaches.of_halt halt halted
  · have inside := may.lt_length
    refine Reaches.after_move (Move.take state job may holds) ?_
    have received : receive outcome { state with receiver := some index } index =
        startSend outcome
          ({ state with receiver := some index }.makeRoom.passTurn.settleFate job.number
            .accepted) index job := by
      unfold receive
      rw [holds]
    rw [received, take_eq]
    unfold startSend setWorker
    dsimp only
    split
    next through =>
      refine Reaches.after_move (Move.pass _) ?_
      refine endSend_reaches outcome (List.getElem?_set_self inside) ?_
      cases state.pending <;> rfl
    next =>
      exact Reaches.of_halt (Halt.block _ job (List.getElem?_set_self inside))
        (by simp [inside])

variable (outcome) in
/-- A free worker takes the batch in the place if it may, and otherwise waits. -/
theorem seek_reaches (idle : state.workers[index]? = some .idle) :
    Reaches outcome index state (seek outcome state index) := by
  unfold seek
  split
  next vacant => exact receive_reaches outcome (.unclaimed idle vacant)
  next other turn =>
    have inside : index < state.workers.length := (List.getElem?_eq_some_iff.mp idle).1
    exact Reaches.of_halt (Halt.queue state other idle turn) (by simp [setWorker, inside])

variable (outcome) in
theorem goes_seek
    (idle : state.workers[index]? = some .idle)
    (empty : state.held = []) :
    Goes outcome index state (seek outcome state index) := by
  unfold seek
  split
  next vacant =>
    obtain ⟨halt, -⟩ := halt_receive_of_held_eq_nil outcome
      (.unclaimed idle vacant) empty
    exact ⟨state, Relation.ReflTransGen.refl, halt⟩
  next other turn => exact ⟨state, Relation.ReflTransGen.refl, Halt.queue state other idle turn⟩

/-- Wherever part of a turn leaves a worker, it halts once it has sought again. -/
theorem Reaches.goes_seekIfIdle {after : State batch}
    (reaches : Reaches outcome index state after) :
    Goes outcome index state (seekIfIdle outcome after index) := by
  unfold seekIfIdle
  obtain ⟨goes, halted⟩ | ⟨moves, idle, empty⟩ := reaches
  · rw [if_neg halted]
    exact goes
  · rw [if_pos idle]
    obtain ⟨between, later, halt⟩ := goes_seek outcome idle empty
    exact ⟨between, moves.trans later, halt⟩

/-- What a worker that becomes ready can rely on. -/
structure Poised (state : State batch) (index : Nat) : Prop where
  /-- A worker that waits for a batch has the turn to receive. -/
  receiving : state.workers[index]? = some .receiving -> state.receiver = some index
  /-- A send does not wait at the gate any more. -/
  sending : ∀ job, state.workers[index]? = some (.sending job) -> index ∉ state.gate

variable (outcome) in
theorem workerStep_reaches (poised : Poised state index) :
    Reaches outcome index state (workerStep outcome state index) := by
  have claimed (turn : state.receiver = some index) :
      { state with receiver := some index } = state := by
    rw [← turn]
  unfold workerStep
  split
  next idle => exact seek_reaches outcome idle
  next queueing =>
    split
    next turn =>
      have reaches := receive_reaches outcome (.passed queueing turn)
      rw [claimed turn] at reaches
      exact reaches
    next elsewhere =>
      refine Reaches.of_halt (Halt.rest state ?_) (by simp [queueing])
      intro worker found
      exact Or.inr ⟨Option.some.inj (found.symm.trans queueing), elsewhere⟩
  next receiving =>
    have turn := poised.receiving receiving
    have reaches := receive_reaches outcome (.waited receiving turn)
    rw [claimed turn] at reaches
    exact reaches
  next job sending =>
    rw [if_neg (poised.sending job sending)]
    unfold seekIfIdle
    obtain ⟨halt, halted⟩ | ⟨move, idle, -⟩ := endSend_cases outcome sending
    · rw [if_neg halted]
      exact Reaches.of_halt halt halted
    · rw [if_pos idle]
      exact Reaches.after_move move (seek_reaches outcome idle)
  next notIdle notQueueing notReceiving notSending =>
    refine Reaches.of_halt (Halt.rest state ?_) notIdle
    intro worker found
    cases worker with
    | gone => exact Or.inl rfl
    | idle => exact absurd found notIdle
    | queueing => exact absurd found notQueueing
    | receiving => exact absurd found notReceiving
    | sending job => exact absurd found (notSending job)

variable (outcome) in
/-- A turn of a worker is a chain of moves up to where it halts. -/
theorem goes_workerTurn (poised : Poised state index) :
    Goes outcome index state (workerTurn outcome state index) :=
  (workerStep_reaches outcome poised).goes_seekIfIdle

/-! ## A turn of a batch and an event as one change -/

theorem admission_entryTurn {job : Job batch} (ready : .entry job ∈ state.ready) :
    Admission state
      ({ state with ready := state.ready.erase (.entry job) }.entryTurn job) := by
  unfold entryTurn
  split
  next decided =>
    refine Admission.dismiss state job ready ?_
    intro awaited
    simp [isAwaited, awaited] at decided
  next undecided =>
    have awaited : state.fates[job.number]? = some .waiting := by
      simpa [isAwaited] using undecided
    split
    next deserted =>
      rw [settleFate_eq]
      exact Admission.refuse state job ready awaited deserted
    next staffed =>
      have staffed : state.isDeserted = false := Bool.not_eq_true _ ▸ staffed
      split
      next free =>
        rw [enter_eq]
        exact Admission.enter state job ready awaited staffed (Or.inl free)
      next first promised =>
        split
        next same =>
          rw [enter_eq]
          exact Admission.enter state job ready awaited staffed (Or.inr (same ▸ promised))
        next different =>
          have promised : state.place = .promised first := promised
          refine Admission.line state job ready awaited staffed ⟨by simp [promised], ?_⟩
          rw [promised]
          exact fun same => different (Place.promised.inj same)
      next other holds =>
        have holds : state.place = .holds other := holds
        exact Admission.line state job ready awaited staffed ⟨by simp [holds], by simp [holds]⟩

theorem foldl_wake_worker (indices : List Nat) (state : State batch) :
    indices.foldl (fun state index => state.wake (.worker index)) state =
      { state with ready := woken state.ready (indices.map .worker) } := by
  induction indices generalizing state with
  | nil => rfl
  | cons index rest inductionHypothesis =>
      rw [List.foldl_cons, inductionHypothesis, wake_eq]
      rfl

/-- A producer that waits no longer takes its batch back, wherever it waits for room. -/
theorem change_withdraw {number : Nat} (awaited : state.fates[number]? = some .waiting) :
    Change state [] ((state.settleFate number .givenUp).withdraw number) := by
  rw [settleFate_eq]
  unfold withdraw
  dsimp only
  split
  next job promised =>
    split
    next same =>
      subst same
      rw [makeRoom_eq]
      exact Change.decline state job awaited promised
    next different =>
      refine Change.giveUp state number awaited ?_
      intro other alsoPromised
      rw [Place.promised.inj (alsoPromised.symm.trans promised)]
      exact different
  next unpromised =>
    exact Change.giveUp state number awaited (fun job promised => absurd promised (unpromised job))

/-- An event that can happen changes the state in one of the ways listed, if at all. -/
theorem apply_cases {event : Event batch} {changed : State batch}
    (applied : state.apply event = .ok changed) :
    changed = state ∧ state.submission (.event event) = [] ∨
      Change state (state.submission (.event event)) changed := by
  cases event with
  | submit content =>
      simp only [apply] at applied
      split at applied
      next => cases applied
      next proceeding =>
        have proceeding : state.isStopping = false := Bool.not_eq_true _ ▸ proceeding
        have submitted : state.submission (.event (.submit content)) = [content] := by
          simp [submission, proceeding]
        cases applied
        rw [wake_eq, submitted]
        exact Or.inr (Change.submit state content proceeding)
  | giveUp number =>
      simp only [apply] at applied
      split at applied
      next => cases applied
      next =>
        split at applied
        next awaited =>
          cases applied
          exact Or.inr (change_withdraw ((state.isAwaited_iff number).mp awaited))
        next =>
          cases applied
          exact Or.inl ⟨rfl, rfl⟩
  | release permits =>
      cases applied
      unfold release
      dsimp only
      rw [foldl_wake_worker]
      exact Or.inr (Change.release state permits _)
  | finish index =>
      simp only [apply] at applied
      split at applied
      next present =>
        cases applied
        rw [wake_eq]
        exact Or.inr (Change.finish state index present)
      next =>
        cases applied
        exact Or.inl ⟨rfl, rfl⟩
  | shutdown =>
      simp only [apply] at applied
      split at applied
      next => cases applied
      next proceeding =>
        split at applied
        next => cases applied
        next settled =>
          have proceeding : state.isStopping = false := Bool.not_eq_true _ ▸ proceeding
          cases applied
          rw [wakeReceiver_eq]
          exact Or.inr (Change.stop state proceeding settled)

theorem submission_of_error {event : Event batch} {objection : Objection}
    (rejected : state.apply event = .error objection) :
    state.submission (.event event) = [] := by
  cases event with
  | submit content =>
      cases stopping : state.isStopping with
      | true => simp [submission, stopping]
      | false => simp [apply, stopping] at rejected
  | giveUp number => rfl
  | release permits => rfl
  | finish index => rfl
  | shutdown => rfl

end State

/-! ## Steps -/

/-- What a step can do, and what it submits. -/
inductive Step (outcome : Job batch -> Outcome) :
    State batch -> List batch -> State batch -> Prop where
  /-- The step cannot be taken, or has no effect. -/
  | stay (state : State batch) : Step outcome state [] state
  /-- A worker that is ready goes on. -/
  | goes {state after : State batch} {index : Nat}
      (ready : .worker index ∈ state.ready)
      (goes : Goes outcome index { state with ready := state.ready.erase (.worker index) } after) :
      Step outcome state [] after
  /-- A batch that is ready goes on. -/
  | admits {state after : State batch} (admission : Admission state after) :
      Step outcome state [] after
  /-- An event happens. -/
  | changes {state after : State batch} {contents : List batch}
      (change : Change state contents after) :
      Step outcome state contents after

namespace State

/-- Every step does one of the things listed. -/
theorem step_act (outcome : Job batch -> Outcome) (state : State batch)
    (poised : ∀ index, .worker index ∈ state.ready -> Poised state index)
    (action : Action batch) :
    Step outcome state (state.submission action) (act outcome state action) := by
  cases action with
  | turn task =>
      simp only [act]
      split
      next ready =>
        cases task with
        | worker index =>
            have poised := poised index ready
            exact Step.goes ready (goes_workerTurn outcome ⟨poised.receiving, poised.sending⟩)
        | entry job => exact Step.admits (admission_entryTurn ready)
      next => exact Step.stay state
  | event event =>
      simp only [act]
      cases applied : state.apply event with
      | ok changed =>
          obtain ⟨unchanged, nothing⟩ | change := apply_cases applied
          · rw [nothing, unchanged]
            exact Step.stay state
          · exact Step.changes change
      | error objection =>
          rw [submission_of_error applied]
          exact Step.stay state

end State
end Dispatch
end Telemetry
