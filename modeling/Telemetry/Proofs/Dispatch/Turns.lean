import Mathlib.Data.List.Nodup
import Telemetry.Proofs.Dispatch.Moves

/-!
# Every worker that waits is waited for

A worker that could go on is ready, and one that waits stands where the event
that it waits for will find it: in the line for the turn to receive, with the
turn, or at the gate.
-/

namespace Telemetry
namespace Dispatch

variable {batch : Type}

/-- The worker is ready, or it is its turn right now. -/
def Active (running : Option Nat) (state : State batch) (index : Nat) : Prop :=
  .worker index ∈ state.ready ∨ running = some index

/-- There is something for the worker with the turn to receive to do. -/
def State.IsUrgent (state : State batch) : Prop :=
  (∃ job, state.place = .holds job) ∨ state.isStopping = true

/-- Nobody waits for an event that has passed; `running` is the worker whose turn it is. -/
structure Ordered (running : Option Nat) (state : State batch) : Prop where
  /-- A free worker gets its chance. -/
  idle : ∀ index, state.workers[index]? = some .idle -> Active running state index
  /-- A worker that waits for its turn stands in line, or has been called. -/
  queueing : ∀ index, state.workers[index]? = some .queueing ->
    index ∈ state.turns ∨ state.receiver = some index ∧ Active running state index
  /-- A worker that waits for a batch has the turn, and is called when there is one. -/
  receiving : ∀ index, state.workers[index]? = some .receiving ->
    state.receiver = some index ∧ (state.IsUrgent -> Active running state index)
  /-- A send waits at the gate, or its worker gets its chance. -/
  sending : ∀ index job, state.workers[index]? = some (.sending job) ->
    index ∈ state.gate ∨ Active running state index
  /-- The worker with the turn waits for a batch, or is about to. -/
  receiver : ∀ index, state.receiver = some index -> index ∉ state.turns ∧
    (state.workers[index]? = some .queueing ∨ state.workers[index]? = some .receiving)
  /-- Those in line wait for their turn. -/
  turns : ∀ index ∈ state.turns, state.workers[index]? = some .queueing
  /-- Nobody stands in line twice. -/
  turns_nodup : state.turns.Nodup
  /-- As long as somebody stands in line, somebody has the turn. -/
  claimed : state.turns ≠ [] -> state.receiver ≠ none
  /-- Those at the gate send. -/
  gate : ∀ index ∈ state.gate, ∃ job, state.workers[index]? = some (.sending job)
  /-- Nobody stands at the gate twice. -/
  gate_nodup : state.gate.Nodup
  /-- Who gets its chance does not stand in line. -/
  called : ∀ index, Active running state index -> index ∉ state.turns ∧ index ∉ state.gate
  /-- Nothing is ready twice. -/
  ready_nodup : state.ready.Nodup
  /-- The worker whose turn it is is not ready besides. -/
  running : ∀ index, running = some index -> .worker index ∉ state.ready

namespace Ordered

variable {index : Nat} {state after : State batch}

/-- Before the workers have got their first chance, each of them is called. -/
theorem fresh (limit : Nat) : Ordered none (State.fresh limit : State batch) := by
  have free (index : Nat) (worker : Worker batch)
      (found : (State.fresh limit).workers[index]? = some worker) :
      worker = .idle ∧ .worker index ∈ (State.fresh limit : State batch).ready := by
    unfold State.fresh at found ⊢
    grind
  constructor
  case idle => exact fun index found => Or.inl (free index _ found).2
  case queueing => exact fun index found => nomatch (free index _ found).1
  case receiving => exact fun index found => nomatch (free index _ found).1
  case sending => exact fun index job found => nomatch (free index _ found).1
  case receiver => exact fun index never => nomatch never
  case turns => exact fun index never => nomatch never
  case turns_nodup => exact List.nodup_nil
  case claimed => exact fun never => absurd rfl never
  case gate => exact fun index never => nomatch never
  case gate_nodup => exact List.nodup_nil
  case called => exact fun index _ => ⟨List.not_mem_nil, List.not_mem_nil⟩
  case ready_nodup => exact List.nodup_range.map (fun _ _ same => Task.worker.inj same)
  case running => exact fun index never => nomatch never

/-- A worker that becomes ready has been called. -/
theorem poised
    (ordered : Ordered none state)
    (ready : .worker index ∈ state.ready) :
    State.Poised state index where
  receiving := fun receiving => (ordered.receiving index receiving).1
  sending := fun _ _ => (ordered.called index (Or.inl ready)).2

/-- A worker that waits neither in line nor for a batch does not have the turn. -/
theorem receiver_ne {running : Option Nat} {worker : Worker batch}
    (ordered : Ordered running state)
    (found : state.workers[index]? = some worker)
    (notQueueing : worker ≠ .queueing)
    (notReceiving : worker ≠ .receiving) :
    state.receiver ≠ some index := by
  intro own
  obtain ⟨-, queueing | receiving⟩ := ordered.receiver index own
  · exact notQueueing (Option.some.inj (found.symm.trans queueing))
  · exact notReceiving (Option.some.inj (found.symm.trans receiving))

/-! ## Changes of what waits for what -/

/--
What makes workers ready and lets them through the gate keeps everybody waited
for, if it makes the right ones ready.
-/
theorem frame {running later : Option Nat}
    (ordered : Ordered running state)
    (workers : after.workers = state.workers)
    (receiver : after.receiver = state.receiver)
    (turns : after.turns = state.turns)
    (gate : after.gate.Sublist state.gate)
    (active : ∀ other, Active running state other -> Active later after other)
    (opened : ∀ other ∈ state.gate, other ∈ after.gate ∨ Active later after other)
    (urgent : ∀ other, state.workers[other]? = some .receiving -> state.receiver = some other ->
      after.IsUrgent -> Active later after other)
    (called : ∀ other, Active later after other -> other ∉ state.turns ∧ other ∉ after.gate)
    (nodup : after.ready.Nodup)
    (alone : ∀ other, later = some other -> .worker other ∉ after.ready) :
    Ordered later after := by
  constructor
  case idle =>
    intro other idle
    exact active other (ordered.idle other (workers ▸ idle))
  case queueing =>
    intro other queueing
    rw [turns, receiver]
    exact (ordered.queueing other (workers ▸ queueing)).imp_right (And.imp_right (active other))
  case receiving =>
    intro other receiving
    have receiving := workers ▸ receiving
    have turn := (ordered.receiving other receiving).1
    rw [receiver]
    exact ⟨turn, urgent other receiving turn⟩
  case sending =>
    intro other job sending
    obtain waits | calls := ordered.sending other job (workers ▸ sending)
    · exact opened other waits
    · exact Or.inr (active other calls)
  case receiver =>
    rw [workers, receiver, turns]
    exact ordered.receiver
  case turns =>
    rw [workers, turns]
    exact ordered.turns
  case turns_nodup => exact turns ▸ ordered.turns_nodup
  case claimed =>
    rw [receiver, turns]
    exact ordered.claimed
  case gate =>
    intro other waits
    rw [workers]
    exact ordered.gate other (gate.subset waits)
  case gate_nodup => exact ordered.gate_nodup.sublist gate
  case called => exact turns ▸ called
  case ready_nodup => exact nodup
  case running => exact alone

/-- A worker that no longer receives passes the turn on to the first in line. -/
theorem pass_on (worker : Worker batch)
    (ordered : Ordered (some index) state)
    (may : MayReceive state index)
    (busy : (∃ job, worker = .sending job) ∨ worker = .gone)
    (workers : after.workers = state.workers.set index worker)
    (receiver : after.receiver = state.turns.head?)
    (turns : after.turns = state.turns.tail)
    (gate : after.gate = state.gate)
    (ready : ∀ other, .worker other ∈ after.ready ↔
      .worker other ∈ state.ready ∨ state.turns.head? = some other)
    (nodup : after.ready.Nodup) :
    Ordered (some index) after := by
  have inside := may.lt_length
  have outside := ordered.called index (Or.inr rfl)
  have own : after.workers[index]? = some worker := by
    rw [workers, List.getElem?_set_self inside]
  have others : ∀ other, other ≠ index -> after.workers[other]? = state.workers[other]? := by
    intro other different
    rw [workers, List.getElem?_set_ne different.symm]
  have inLine : ∀ other, after.workers[other]? = some .queueing -> other ∈ state.turns := by
    intro other queueing
    have different : other ≠ index := by grind
    rw [others other different] at queueing
    obtain waits | ⟨turn, -⟩ := ordered.queueing other queueing
    · exact waits
    · exact absurd (may.eq_of_receiver turn) different
  have active : ∀ other, Active (some index) after other ↔
      Active (some index) state other ∨ state.turns.head? = some other := by
    intro other
    unfold Active
    rw [ready]
    grind
  constructor
  case idle =>
    intro other idle
    have different : other ≠ index := by grind
    rw [others other different] at idle
    exact (active other).mpr (Or.inl (ordered.idle other idle))
  case queueing =>
    intro other queueing
    have waits := inLine other queueing
    cases line : state.turns with
    | nil => simp [line] at waits
    | cons next rest => grind
  case receiving =>
    intro other receiving
    have different : other ≠ index := by grind
    rw [others other different] at receiving
    exact absurd (may.eq_of_receiver (ordered.receiving other receiving).1) different
  case sending =>
    intro other job sending
    rw [gate, active]
    by_cases same : other = index
    · exact Or.inr (Or.inl (Or.inr (congrArg some same.symm)))
    · rw [others other same] at sending
      exact (ordered.sending other job sending).imp id Or.inl
  case receiver =>
    intro other turn
    have nodup := ordered.turns_nodup
    have waits := ordered.turns other
    cases line : state.turns with
    | nil => simp [receiver, line] at turn
    | cons next rest => grind
  case turns =>
    intro other waits
    rw [turns] at waits
    have waits := List.mem_of_mem_tail waits
    have different : other ≠ index := fun same => outside.1 (same ▸ waits)
    rw [others other different]
    exact ordered.turns other waits
  case turns_nodup =>
    rw [turns]
    exact ordered.turns_nodup.tail
  case claimed =>
    intro line
    rw [turns] at line
    cases line : state.turns <;> grind
  case gate =>
    intro other waits
    rw [gate] at waits
    have different : other ≠ index := fun same => outside.2 (same ▸ waits)
    rw [others other different]
    exact ordered.gate other waits
  case gate_nodup =>
    rw [gate]
    exact ordered.gate_nodup
  case called =>
    intro other calls
    rw [turns, gate]
    obtain calls | first := (active other).mp calls
    · have := ordered.called other calls
      exact ⟨fun waits => this.1 (List.mem_of_mem_tail waits), this.2⟩
    · have nodup := ordered.turns_nodup
      have waits := ordered.turns other
      have gates := ordered.gate other
      cases line : state.turns <;> grind
  case ready_nodup => exact nodup
  case running =>
    intro other running
    cases running
    rw [ready]
    rintro (present | first)
    · exact ordered.running index rfl present
    · exact outside.1 (List.mem_of_head? first)

/-- A worker whose send has ended is free again or gone. -/
theorem end_send {job : Job batch} (worker : Worker batch)
    (ordered : Ordered (some index) state)
    (sending : state.workers[index]? = some (.sending job))
    (freed : worker = .idle ∨ worker = .gone)
    (workers : after.workers = state.workers.set index worker)
    (receiver : after.receiver = state.receiver)
    (turns : after.turns = state.turns)
    (gate : after.gate = state.gate)
    (ready : after.ready = state.ready)
    (urgent : after.IsUrgent -> state.IsUrgent) :
    Ordered (some index) after := by
  have inside : index < state.workers.length := (List.getElem?_eq_some_iff.mp sending).1
  have outside := ordered.called index (Or.inr rfl)
  have own : after.workers[index]? = some worker := by
    rw [workers, List.getElem?_set_self inside]
  have others : ∀ other, other ≠ index -> after.workers[other]? = state.workers[other]? := by
    intro other different
    rw [workers, List.getElem?_set_ne different.symm]
  have active : ∀ other, Active (some index) after other ↔ Active (some index) state other := by
    intro other
    unfold Active
    rw [ready]
  constructor
  case idle =>
    intro other idle
    rw [active]
    by_cases same : other = index
    · exact Or.inr (congrArg some same.symm)
    · exact ordered.idle other (others other same ▸ idle)
  case queueing =>
    intro other queueing
    have different : other ≠ index := by grind
    rw [turns, receiver, active]
    exact ordered.queueing other (others other different ▸ queueing)
  case receiving =>
    intro other receiving
    have different : other ≠ index := by grind
    obtain ⟨turn, called⟩ := ordered.receiving other (others other different ▸ receiving)
    rw [receiver, active]
    exact ⟨turn, fun urgency => called (urgent urgency)⟩
  case sending =>
    intro other job sending
    have different : other ≠ index := by grind
    rw [gate, active]
    exact ordered.sending other job (others other different ▸ sending)
  case receiver =>
    intro other turn
    have waits := ordered.receiver other (receiver ▸ turn)
    have different : other ≠ index := by grind
    rw [turns, others other different]
    exact waits
  case turns =>
    intro other waits
    rw [turns] at waits
    have different : other ≠ index := fun same => outside.1 (same ▸ waits)
    rw [others other different]
    exact ordered.turns other waits
  case turns_nodup => exact turns ▸ ordered.turns_nodup
  case claimed => exact turns ▸ receiver ▸ ordered.claimed
  case gate =>
    intro other waits
    rw [gate] at waits
    have different : other ≠ index := fun same => outside.2 (same ▸ waits)
    rw [others other different]
    exact ordered.gate other waits
  case gate_nodup => exact gate ▸ ordered.gate_nodup
  case called =>
    intro other calls
    rw [turns, gate]
    exact ordered.called other ((active other).mp calls)
  case ready_nodup => exact ready ▸ ordered.ready_nodup
  case running => exact ready ▸ ordered.running

/-- Once a worker is gone, its turn is over. -/
theorem gone (index : Nat)
    (ordered : Ordered (some index) state)
    (gone : ∀ worker, state.workers[index]? = some worker -> worker = .gone) :
    Ordered none state := by
  have active : ∀ other worker, state.workers[other]? = some worker -> worker ≠ .gone ->
      Active (some index) state other -> Active none state other := by
    intro other worker found staffed calls
    refine calls.imp_right ?_
    intro same
    rw [← Option.some.inj same] at found
    exact absurd (gone worker found) staffed
  constructor
  case idle =>
    intro other idle
    exact active other _ idle (by simp) (ordered.idle other idle)
  case queueing =>
    intro other queueing
    exact (ordered.queueing other queueing).imp_right
      (And.imp_right (active other _ queueing (by simp)))
  case receiving =>
    intro other receiving
    obtain ⟨turn, called⟩ := ordered.receiving other receiving
    exact ⟨turn, fun urgency => active other _ receiving (by simp) (called urgency)⟩
  case sending =>
    intro other job sending
    exact (ordered.sending other job sending).imp_right (active other _ sending (by simp))
  case receiver => exact ordered.receiver
  case turns => exact ordered.turns
  case turns_nodup => exact ordered.turns_nodup
  case claimed => exact ordered.claimed
  case gate => exact ordered.gate
  case gate_nodup => exact ordered.gate_nodup
  case called =>
    intro other calls
    exact ordered.called other (calls.imp_right (fun never => nomatch never))
  case ready_nodup => exact ordered.ready_nodup
  case running => exact fun other never => nomatch never

/-- The places where the event that a worker waits for will find it. -/
inductive Waits (state : State batch) (index : Nat) : Worker batch -> Prop where
  /-- It stands in line for the turn to receive. -/
  | inLine (waits : index ∈ state.turns) (other : state.receiver ≠ some index)
      (ungated : index ∉ state.gate) :
      Waits state index .queueing
  /-- It has the turn, and nothing is to be done. -/
  | forBatch (turn : state.receiver = some index) (outside : index ∉ state.turns)
      (ungated : index ∉ state.gate) (calm : ¬ state.IsUrgent) :
      Waits state index .receiving
  /-- Its send stands at the gate. -/
  | atGate (job : Job batch) (gated : index ∈ state.gate) (outside : index ∉ state.turns)
      (other : state.receiver ≠ some index) :
      Waits state index (.sending job)

namespace Waits

variable {worker : Worker batch} (waits : Waits state index worker)
include waits

theorem mem_turns_iff : index ∈ state.turns ↔ worker = .queueing := by
  cases waits with
  | inLine waits _ _ => exact iff_of_true waits rfl
  | forBatch _ outside _ _ => exact iff_of_false outside (by simp)
  | atGate _ _ outside _ => exact iff_of_false outside (by simp)

theorem receiver_iff : state.receiver = some index ↔ worker = .receiving := by
  cases waits with
  | inLine _ other _ => exact iff_of_false other (by simp)
  | forBatch turn _ _ _ => exact iff_of_true turn rfl
  | atGate _ _ _ other => exact iff_of_false other (by simp)

theorem mem_gate_iff : index ∈ state.gate ↔ ∃ job, worker = .sending job := by
  cases waits with
  | inLine _ _ ungated => exact iff_of_false ungated (by simp)
  | forBatch _ _ ungated _ => exact iff_of_false ungated (by simp)
  | atGate job gated _ _ => exact iff_of_true gated ⟨job, rfl⟩

theorem not_isUrgent (receiving : worker = .receiving) : ¬ state.IsUrgent := by
  cases waits with
  | inLine => cases receiving
  | forBatch _ _ _ calm => exact calm
  | atGate => cases receiving

theorem ne_idle : worker ≠ .idle := by
  cases waits <;> simp

end Waits

/-- A worker may end its turn where it waits, if it changes nothing for the others. -/
theorem wait {worker : Worker batch}
    (ordered : Ordered (some index) state)
    (inside : index < state.workers.length)
    (waits : Waits after index worker)
    (workers : after.workers = state.workers.set index worker)
    (ready : after.ready = state.ready)
    (turns : ∀ other, other ≠ index -> (other ∈ after.turns ↔ other ∈ state.turns))
    (turns_nodup : after.turns.Nodup)
    (gate : ∀ other, other ≠ index -> (other ∈ after.gate ↔ other ∈ state.gate))
    (gate_nodup : after.gate.Nodup)
    (receiver : ∀ other, other ≠ index ->
      (after.receiver = some other ↔ state.receiver = some other))
    (claimed : after.turns ≠ [] -> after.receiver ≠ none)
    (urgent : after.IsUrgent -> state.IsUrgent) :
    Ordered none after := by
  have own : after.workers[index]? = some worker := by
    rw [workers, List.getElem?_set_self inside]
  have others : ∀ other, other ≠ index -> after.workers[other]? = state.workers[other]? := by
    intro other different
    rw [workers, List.getElem?_set_ne different.symm]
  have active : ∀ other, other ≠ index ->
      (Active none after other ↔ Active (some index) state other) := by
    intro other different
    unfold Active
    rw [ready]
    refine or_congr_right (iff_of_false (fun never => nomatch never) ?_)
    exact fun same => different (Option.some.inj same).symm
  constructor
  case idle =>
    intro other idle
    by_cases same : other = index
    · rw [same, own] at idle
      exact absurd (Option.some.inj idle) waits.ne_idle
    · rw [others other same] at idle
      exact (active other same).mpr (ordered.idle other idle)
  case queueing =>
    intro other queueing
    by_cases same : other = index
    · rw [same] at queueing ⊢
      exact Or.inl (waits.mem_turns_iff.mpr (Option.some.inj (own.symm.trans queueing)))
    · rw [others other same] at queueing
      rw [turns other same, receiver other same, active other same]
      exact ordered.queueing other queueing
  case receiving =>
    intro other receiving
    by_cases same : other = index
    · rw [same] at receiving ⊢
      have receives := Option.some.inj (own.symm.trans receiving)
      exact ⟨waits.receiver_iff.mpr receives,
        fun urgency => absurd urgency (waits.not_isUrgent receives)⟩
    · rw [others other same] at receiving
      rw [receiver other same, active other same]
      obtain ⟨turn, called⟩ := ordered.receiving other receiving
      exact ⟨turn, fun urgency => called (urgent urgency)⟩
  case sending =>
    intro other job sending
    by_cases same : other = index
    · rw [same] at sending ⊢
      exact Or.inl (waits.mem_gate_iff.mpr ⟨job, Option.some.inj (own.symm.trans sending)⟩)
    · rw [others other same] at sending
      rw [gate other same, active other same]
      exact ordered.sending other job sending
  case receiver =>
    intro other turn
    by_cases same : other = index
    · rw [same] at turn ⊢
      have receives := waits.receiver_iff.mp turn
      rw [own, waits.mem_turns_iff, receives]
      exact ⟨by simp, Or.inr rfl⟩
    · rw [turns other same, others other same]
      exact ordered.receiver other ((receiver other same).mp turn)
  case turns =>
    intro other present
    by_cases same : other = index
    · rw [same] at present ⊢
      rw [own, waits.mem_turns_iff.mp present]
    · rw [others other same]
      exact ordered.turns other ((turns other same).mp present)
  case turns_nodup => exact turns_nodup
  case claimed => exact claimed
  case gate =>
    intro other present
    by_cases same : other = index
    · rw [same] at present ⊢
      obtain ⟨job, sends⟩ := waits.mem_gate_iff.mp present
      exact ⟨job, own.trans (congrArg some sends)⟩
    · rw [others other same]
      exact ordered.gate other ((gate other same).mp present)
  case gate_nodup => exact gate_nodup
  case called =>
    intro other calls
    by_cases same : other = index
    · obtain present | never := calls
      · rw [same, ready] at present
        exact absurd present (ordered.running index rfl)
      · cases never
    · rw [turns other same, gate other same]
      exact ordered.called other ((active other same).mp calls)
  case ready_nodup => exact ready ▸ ordered.ready_nodup
  case running => exact fun other never => nomatch never

variable [DecidableEq batch] {outcome : Job batch -> Outcome}

/-! ## Turns of workers -/

/-- What a worker does after which it goes on leaves the others waited for. -/
theorem move
    (ordered : Ordered (some index) state)
    (move : Move outcome index state after) :
    Ordered (some index) after := by
  cases move with
  | take job may holds =>
      refine pass_on (.sending job) ordered may (Or.inl ⟨job, rfl⟩)
        rfl rfl rfl rfl ?_ (nodup_woken (nodup_woken ordered.ready_nodup _) _)
      intro other
      simp
  | pass => exact { ordered with }
  | finish job sending survives =>
      exact end_send .idle ordered sending (Or.inl rfl) rfl rfl rfl rfl rfl id

theorem halt (ordered : Ordered (some index) state) (halt : Halt outcome index state after) :
    Ordered none after := by
  cases halt with
  | rest nothing =>
      refine gone index ordered ?_
      intro worker found
      obtain gone | ⟨queueing, elsewhere⟩ := nothing worker found
      · exact gone
      · obtain waits | ⟨turn, -⟩ := ordered.queueing index (queueing ▸ found)
        · exact absurd waits (ordered.called index (Or.inr rfl)).1
        · exact absurd turn elsewhere
  | queue other idle turn =>
      have inside : index < state.workers.length := (List.getElem?_eq_some_iff.mp idle).1
      obtain ⟨outside, ungated⟩ := ordered.called index (Or.inr rfl)
      have elsewhere := ordered.receiver_ne idle (by simp) (by simp)
      refine ordered.wait inside
        (Waits.inLine (List.mem_append_right _ List.mem_cons_self) elsewhere ungated)
        rfl rfl ?_ ?_ (fun _ _ => Iff.rfl) ordered.gate_nodup (fun _ _ => Iff.rfl) ?_ id
      · intro other different
        simp [different]
      · refine List.nodup_append.mpr ⟨ordered.turns_nodup, List.nodup_singleton index, ?_⟩
        intro other present last isLast same
        rw [List.mem_singleton.mp isLast] at same
        exact outside (same ▸ present)
      · intro _ never
        cases never.symm.trans turn
  | await may empty proceeding =>
      obtain ⟨outside, ungated⟩ := ordered.called index (Or.inr rfl)
      have calm : ¬ state.IsUrgent := by
        rintro (⟨job, holds⟩ | stopping)
        · simp [State.held, holds] at empty
        · exact Bool.false_ne_true (proceeding.symm.trans stopping)
      refine ordered.wait may.lt_length (Waits.forBatch rfl outside ungated calm) rfl rfl
        (fun _ _ => Iff.rfl) ordered.turns_nodup (fun _ _ => Iff.rfl) ordered.gate_nodup ?_
        (fun _ => Option.some_ne_none index) id
      intro other different
      constructor
      · exact fun same => absurd (Option.some.inj same).symm different
      · exact fun turn => absurd (may.eq_of_receiver turn) different
  | exit may empty stopping =>
      have inside := may.lt_length
      refine gone index ?_ ?_
      · refine pass_on .gone ordered may (Or.inr rfl) rfl rfl rfl rfl ?_
          (nodup_woken ordered.ready_nodup _)
        intro other
        simp
      · intro worker found
        simpa [inside] using found.symm
  | block job sending =>
      have inside : index < state.workers.length := (List.getElem?_eq_some_iff.mp sending).1
      obtain ⟨outside, ungated⟩ := ordered.called index (Or.inr rfl)
      have elsewhere := ordered.receiver_ne sending (by simp) (by simp)
      refine ordered.wait inside
        (Waits.atGate job (List.mem_append_right _ List.mem_cons_self) outside elsewhere)
        ?_ rfl (fun _ _ => Iff.rfl) ordered.turns_nodup ?_ ?_ (fun _ _ => Iff.rfl)
        ordered.claimed id
      · rw [← (List.getElem?_eq_some_iff.mp sending).2, List.set_getElem_self]
      · intro other different
        simp [different]
      · refine List.nodup_append.mpr ⟨ordered.gate_nodup, List.nodup_singleton index, ?_⟩
        intro other present last isLast same
        rw [List.mem_singleton.mp isLast] at same
        exact ungated (same ▸ present)
  | crash job sending crashes others =>
      have inside : index < state.workers.length := (List.getElem?_eq_some_iff.mp sending).1
      refine gone index ?_ ?_
      · exact end_send .gone ordered sending (Or.inr rfl) rfl rfl rfl rfl rfl id
      · intro worker found
        simpa [inside] using found.symm
  | crashLast job sending crashes alone =>
      have inside : index < state.workers.length := (List.getElem?_eq_some_iff.mp sending).1
      refine gone index ?_ ?_
      · refine end_send .gone ordered sending (Or.inr rfl) rfl rfl rfl rfl rfl ?_
        rintro (⟨job, holds⟩ | stopping)
        · cases holds
        · exact Or.inr stopping
      · intro worker found
        simpa [inside] using found.symm

/-- A worker that is ready begins its turn. -/
theorem begin
    (ordered : Ordered none state)
    (ready : .worker index ∈ state.ready) :
    Ordered (some index) { state with ready := state.ready.erase (.worker index) } := by
  have active : ∀ other,
      Active (some index) { state with ready := state.ready.erase (.worker index) } other ↔
        Active none state other := by
    intro other
    unfold Active
    dsimp only
    rw [ordered.ready_nodup.mem_erase_iff]
    grind
  refine frame ordered rfl rfl rfl (List.Sublist.refl _)
    (fun other calls => (active other).mpr calls) (fun other waits => Or.inl waits) ?_
    (fun other calls => ordered.called other ((active other).mp calls))
    (ordered.ready_nodup.erase _) ?_
  · intro other receiving turn urgency
    exact (active other).mpr ((ordered.receiving other receiving).2 urgency)
  · intro other same present
    cases same
    exact (ordered.ready_nodup.mem_erase_iff.mp present).1 rfl

/-! ## Turns of batches and events -/

/-- What makes no worker ready but the one that waits for a batch leaves everybody waited for. -/
theorem retask
    (ordered : Ordered none state)
    (workers : after.workers = state.workers)
    (receiver : after.receiver = state.receiver)
    (turns : after.turns = state.turns)
    (gate : after.gate = state.gate)
    (kept : ∀ other, .worker other ∈ state.ready -> .worker other ∈ after.ready)
    (added : ∀ other, .worker other ∈ after.ready ->
      .worker other ∈ state.ready ∨ .worker other ∈ state.receiverTasks)
    (urgent : after.IsUrgent -> state.IsUrgent ∨ ∀ task ∈ state.receiverTasks, task ∈ after.ready)
    (nodup : after.ready.Nodup) :
    Ordered none after := by
  have active : ∀ other, Active none state other -> Active none after other := by
    intro other calls
    exact calls.imp_left (kept other)
  refine frame ordered workers receiver turns (gate ▸ List.Sublist.refl _) active
    (fun other waits => Or.inl (gate ▸ waits)) ?_ ?_ nodup (fun other never => nomatch never)
  · intro other receiving turn urgency
    obtain before | calls := urgent urgency
    · exact active other ((ordered.receiving other receiving).2 before)
    · refine Or.inl (calls _ ?_)
      simp [State.receiverTasks, turn, receiving]
  · intro other calls
    rw [gate]
    obtain present | task := added other (calls.resolve_right (fun never => nomatch never))
    · exact ordered.called other (Or.inl present)
    · have found : state.receiver = some other ∧ state.workers[other]? = some .receiving := by
        unfold State.receiverTasks at task
        grind
      refine ⟨(ordered.receiver other found.1).1, ?_⟩
      intro waits
      obtain ⟨job, sending⟩ := ordered.gate other waits
      cases found.2.symm.trans sending

theorem admission (ordered : Ordered none state) (admission : Admission state after) :
    Ordered none after := by
  have erased (job : Job batch) (other : Nat) :
      .worker other ∈ state.ready.erase (.entry job) ↔ .worker other ∈ state.ready := by
    rw [ordered.ready_nodup.mem_erase_iff]
    simp
  have nodup (job : Job batch) : (state.ready.erase (.entry job)).Nodup :=
    ordered.ready_nodup.erase _
  cases admission with
  | dismiss job ready decided =>
      exact retask ordered rfl rfl rfl rfl (fun other => (erased job other).mpr)
        (fun other present => Or.inl ((erased job other).mp present)) Or.inl (nodup job)
  | refuse job ready awaited deserted =>
      exact retask ordered rfl rfl rfl rfl (fun other => (erased job other).mpr)
        (fun other present => Or.inl ((erased job other).mp present)) Or.inl (nodup job)
  | line job ready awaited staffed full =>
      exact retask ordered rfl rfl rfl rfl (fun other => (erased job other).mpr)
        (fun other present => Or.inl ((erased job other).mp present)) Or.inl (nodup job)
  | enter job ready awaited staffed room =>
      refine retask ordered rfl rfl rfl rfl ?_ ?_ ?_ (nodup_woken (nodup job) _)
      · intro other present
        exact (mem_woken _ _ _).mpr (Or.inl ((erased job other).mpr present))
      · intro other present
        exact ((mem_woken _ _ _).mp present).imp_left (erased job other).mp
      · exact fun _ => Or.inr (fun task called => (mem_woken _ _ _).mpr (Or.inr called))

/-- A send that is let through the gate makes its worker ready. -/
theorem open_gate (indices : List Nat)
    (ordered : Ordered none state)
    (workers : after.workers = state.workers)
    (receiver : after.receiver = state.receiver)
    (turns : after.turns = state.turns)
    (place : after.place = state.place)
    (stopping : after.isStopping = state.isStopping)
    (gate : after.gate.Sublist state.gate)
    (opened : ∀ other, other ∈ indices ↔ other ∈ state.gate ∧ other ∉ after.gate)
    (ready : after.ready = woken state.ready (indices.map .worker)) :
    Ordered none after := by
  have member : ∀ other, .worker other ∈ after.ready ↔
      .worker other ∈ state.ready ∨ other ∈ indices := by
    intro other
    rw [ready, mem_woken]
    simp
  have active : ∀ other, Active none state other -> Active none after other := by
    intro other calls
    exact calls.imp_left (fun present => (member other).mpr (Or.inl present))
  refine frame ordered workers receiver turns gate active ?_ ?_ ?_
    (ready ▸ nodup_woken ordered.ready_nodup _) (fun other never => nomatch never)
  · intro other waits
    by_cases still : other ∈ after.gate
    · exact Or.inl still
    · exact Or.inr (Or.inl ((member other).mpr (Or.inr ((opened other).mpr ⟨waits, still⟩))))
  · intro other receiving turn urgency
    refine active other ((ordered.receiving other receiving).2 ?_)
    unfold State.IsUrgent at urgency ⊢
    rw [← place, ← stopping]
    exact urgency
  · intro other calls
    obtain present | through := (member other).mp (calls.resolve_right (fun never => nomatch never))
    · obtain ⟨outside, ungated⟩ := ordered.called other (Or.inl present)
      exact ⟨outside, fun waits => ungated (gate.subset waits)⟩
    · obtain ⟨waited, left⟩ := (opened other).mp through
      refine ⟨?_, left⟩
      intro waits
      obtain ⟨job, sending⟩ := ordered.gate other waited
      cases sending.symm.trans (ordered.turns other waits)

theorem change {contents : List batch}
    (ordered : Ordered none state)
    (change : Change state contents after) :
    Ordered none after := by
  cases change with
  | submit content proceeding =>
      refine retask ordered rfl rfl rfl rfl ?_ ?_ Or.inl (nodup_woken ordered.ready_nodup _)
      · intro other present
        exact (mem_woken _ _ _).mpr (Or.inl present)
      · intro other present
        simpa using Or.inl present
  | giveUp number awaited unpromised => exact { ordered with }
  | decline job awaited promised =>
      refine retask ordered rfl rfl rfl rfl ?_ ?_ ?_ (nodup_woken ordered.ready_nodup _)
      · intro other present
        exact (mem_woken _ _ _).mpr (Or.inl present)
      · intro other present
        simpa using Or.inl present
      · rintro (⟨other, holds⟩ | stopping)
        · exact absurd holds (offered_ne_holds _ other)
        · exact Or.inl (Or.inr stopping)
  | release count permits =>
      have fewer := List.drop_sublist count state.gate
      refine open_gate (state.gate.take count) ordered rfl rfl rfl rfl rfl fewer ?_ rfl
      intro other
      have distinct := ordered.gate_nodup
      rw [← List.take_append_drop count state.gate, List.nodup_append] at distinct
      constructor
      · intro taken
        exact ⟨List.mem_of_mem_take taken, fun left => distinct.2.2 other taken other left rfl⟩
      · rintro ⟨waits, gone⟩
        rw [← List.take_append_drop count state.gate, List.mem_append] at waits
        exact waits.resolve_right gone
  | finish index present =>
      refine open_gate [index] ordered rfl rfl rfl rfl rfl List.filter_sublist ?_ rfl
      intro other
      constructor
      · intro same
        rw [List.mem_singleton.mp same]
        exact ⟨present, by simp⟩
      · rintro ⟨waits, gone⟩
        simpa [waits] using gone
  | stop proceeding settled =>
      refine retask ordered rfl rfl rfl rfl ?_ ?_ ?_ (nodup_woken ordered.ready_nodup _)
      · intro other present
        exact (mem_woken _ _ _).mpr (Or.inl present)
      · intro other present
        exact (mem_woken _ _ _).mp present
      · exact fun _ => Or.inr (fun task called => (mem_woken _ _ _).mpr (Or.inr called))

/-! ## Whole steps -/

/-- Every step leaves every worker that waits waited for. -/
theorem step {contents : List batch}
    (ordered : Ordered none state)
    (step : Step outcome state contents after) :
    Ordered none after := by
  cases step with
  | stay => exact ordered
  | goes ready goes => exact goes.preserves _ _ (ordered.begin ready) Ordered.move Ordered.halt
  | admits admission => exact ordered.admission admission
  | changes change => exact ordered.change change

/-- Steps in any order are steps of the kinds listed. -/
theorem step_act (outcome : Job batch -> Outcome)
    (ordered : Ordered none state)
    (action : Action batch) :
    Step outcome state (state.submission action) (State.act outcome state action) :=
  State.step_act outcome state (fun _ ready => ordered.poised ready) action

end Ordered
end Dispatch
end Telemetry
