import Telemetry.Proofs.Dispatch.Fates
import Telemetry.Proofs.Dispatch.Turns

/-!
# What steps in any order keep

All that a dispatcher promises of its state holds after steps in any order, and
what it has recorded is never taken back.
-/

namespace Telemetry
namespace Dispatch

variable {batch : Type}

/-! ## Records only grow -/

/-- What was decided stays, and the records go on. -/
structure Extends (state after : State batch) : Prop where
  /-- A submission that no longer waits keeps its fate. -/
  decided : ∀ (number : Nat) (fate : Fate), fate ≠ .waiting ->
    state.fates[number]? = some fate -> after.fates[number]? = some fate
  /-- Only a batch whose submission still waits enters. -/
  entered : ∃ new, after.entered = state.entered ++ new ∧
    ∀ job ∈ new, ∀ fate, fate ≠ .waiting -> state.fates[job.number]? ≠ some fate
  /-- Starts are never taken back. -/
  started : state.started <+: after.started
  /-- Nor are ends. -/
  ended : state.ended <+: after.ended

namespace Extends

variable {state between after : State batch}

theorem refl (state : State batch) : Extends state state where
  decided := fun _ _ _ found => found
  entered := ⟨[], (List.append_nil _).symm, fun _ never => nomatch never⟩
  started := List.prefix_rfl
  ended := List.prefix_rfl

theorem trans (early : Extends state between) (late : Extends between after) :
    Extends state after where
  decided := fun number fate different found =>
    late.decided number fate different (early.decided number fate different found)
  entered := by
    obtain ⟨first, firstEntered, firstWaited⟩ := early.entered
    obtain ⟨second, secondEntered, secondWaited⟩ := late.entered
    refine ⟨first ++ second, ?_, ?_⟩
    · rw [secondEntered, firstEntered, List.append_assoc]
    · intro job present fate different found
      obtain before | behind := List.mem_append.mp present
      · exact firstWaited job before fate different found
      · exact secondWaited job behind fate different
          (early.decided job.number fate different found)
  started := early.started.trans late.started
  ended := early.ended.trans late.ended

/-- What enters no batch extends the records if it keeps what was decided. -/
theorem of_entered_eq
    (decided : ∀ (number : Nat) (fate : Fate), fate ≠ .waiting ->
      state.fates[number]? = some fate -> after.fates[number]? = some fate)
    (entered : after.entered = state.entered)
    (started : state.started <+: after.started)
    (ended : state.ended <+: after.ended) :
    Extends state after where
  decided := decided
  entered := ⟨[], by rw [entered, List.append_nil], fun _ never => nomatch never⟩
  started := started
  ended := ended

/-- What leaves the fates and the records alone extends them. -/
theorem of_eq
    (fates : after.fates = state.fates)
    (entered : after.entered = state.entered)
    (started : after.started = state.started)
    (ended : after.ended = state.ended) :
    Extends state after :=
  of_entered_eq (fun _ _ _ found => fates ▸ found) entered (started ▸ List.prefix_rfl)
    (ended ▸ List.prefix_rfl)

variable [DecidableEq batch] {outcome : Job batch -> Outcome} {index : Nat}

theorem of_move (move : Move outcome index state after) : Extends state after := by
  cases move with
  | take job may holds =>
      exact of_entered_eq (fun _ _ different found => settledFates_of_decided found different) rfl
        (List.prefix_append _ _) List.prefix_rfl
  | pass => exact of_eq rfl rfl rfl rfl
  | finish job sending survives =>
      exact of_entered_eq (fun _ _ _ found => found) rfl List.prefix_rfl (List.prefix_append _ _)

theorem of_halt (halt : Halt outcome index state after) : Extends state after := by
  cases halt with
  | rest nothing => exact refl state
  | queue other idle turn => exact of_eq rfl rfl rfl rfl
  | await may empty proceeding => exact of_eq rfl rfl rfl rfl
  | exit may empty stopping => exact of_eq rfl rfl rfl rfl
  | block job sending => exact of_eq rfl rfl rfl rfl
  | crash job sending crashes others =>
      exact of_entered_eq (fun _ _ _ found => found) rfl List.prefix_rfl (List.prefix_append _ _)
  | crashLast job sending crashes alone =>
      refine of_entered_eq ?_ rfl List.prefix_rfl (List.prefix_append _ _)
      intro number fate different found
      rw [List.getElem?_map, found]
      simp [different]

theorem of_admission (admission : Admission state after) : Extends state after := by
  cases admission with
  | dismiss job ready decided => exact of_eq rfl rfl rfl rfl
  | refuse job ready awaited deserted =>
      exact of_entered_eq (fun _ _ different found => settledFates_of_decided found different) rfl
        List.prefix_rfl List.prefix_rfl
  | enter job ready awaited staffed room =>
      refine ⟨fun _ _ _ found => found, ⟨[job], rfl, ?_⟩, List.prefix_rfl, List.prefix_rfl⟩
      intro other present fate different found
      rw [List.mem_singleton.mp present] at found
      exact different (Option.some.inj (found.symm.trans awaited))
  | line job ready awaited staffed full => exact of_eq rfl rfl rfl rfl

theorem of_change {contents : List batch} (change : Change state contents after) :
    Extends state after := by
  cases change with
  | submit content proceeding =>
      refine of_entered_eq ?_ rfl List.prefix_rfl List.prefix_rfl
      intro number fate _ found
      rw [List.getElem?_append_left (List.getElem?_eq_some_iff.mp found).1]
      exact found
  | giveUp number awaited unpromised =>
      exact of_entered_eq (fun _ _ different found => settledFates_of_decided found different) rfl
        List.prefix_rfl List.prefix_rfl
  | decline job awaited promised =>
      exact of_entered_eq (fun _ _ different found => settledFates_of_decided found different) rfl
        List.prefix_rfl List.prefix_rfl
  | release count permits => exact of_eq rfl rfl rfl rfl
  | finish index present => exact of_eq rfl rfl rfl rfl
  | stop proceeding settled => exact of_eq rfl rfl rfl rfl

theorem of_step {contents : List batch} (step : Step outcome state contents after) :
    Extends state after := by
  cases step with
  | stay => exact refl state
  | goes ready goes =>
      exact goes.preserves (Extends state) (Extends state) (of_eq rfl rfl rfl rfl)
        (fun early move => early.trans (of_move move))
        (fun early halt => early.trans (of_halt halt))
  | admits admission => exact of_admission admission
  | changes change => exact of_change change

end Extends

/-! ## A submission made while every worker is busy -/

/-- Every worker that is left sends, and one is left. -/
def State.IsBusy (state : State batch) : Prop :=
  (∃ worker ∈ state.workers, worker.isGone = false) ∧
    ∀ worker ∈ state.workers, worker.isGone = false -> ∃ job, worker = .sending job

/-- The submission is neither accepted nor refused. -/
def State.IsUndecided (state : State batch) (number : Nat) : Prop :=
  state.fates[number]? ≠ some .accepted ∧ state.fates[number]? ≠ some .refused

/--
As long as no further send ends, every worker stays busy and the submission is
neither accepted nor refused.
-/
def Stalled (ends number : Nat) (state : State batch) : Prop :=
  ends < state.ended.length ∨
    ends = state.ended.length ∧ state.IsBusy ∧ state.IsUndecided number

namespace State.IsBusy

variable {state : State batch} {index : Nat}

theorem not_mayReceive (busy : state.IsBusy) : ¬ MayReceive state index := by
  intro may
  obtain ⟨worker, found, noJob, staffed⟩ := may.found
  obtain ⟨job, rfl⟩ := busy.2 worker (List.mem_of_getElem? found) staffed
  cases noJob

theorem isDeserted_eq_false (busy : state.IsBusy) : state.isDeserted = false := by
  obtain ⟨worker, present, staffed⟩ := busy.1
  cases deserted : state.isDeserted with
  | false => rfl
  | true =>
      have gone := List.countP_eq_length.mp (state.isDeserted_iff.mp deserted) worker present
      exact absurd gone (by simp [staffed])

end State.IsBusy

namespace Stalled

variable {outcome : Job batch -> Outcome} {index ends number : Nat} {state after : State batch}

/-- More ends make any other promise void. -/
theorem of_longer
    (stalled : Stalled ends number state)
    (longer : state.ended.length < after.ended.length) :
    Stalled ends number after := by
  obtain more | ⟨same, -⟩ := stalled
  · exact Or.inl (Nat.lt_trans more longer)
  · exact Or.inl (same ▸ longer)

/-- What changes neither the workers nor the ends may decide what was undecided in no way but
giving up. -/
theorem of_eq
    (stalled : Stalled ends number state)
    (workers : after.workers = state.workers)
    (ended : after.ended = state.ended)
    (undecided : state.IsBusy -> state.IsUndecided number -> after.IsUndecided number) :
    Stalled ends number after := by
  obtain more | ⟨same, busy, open_⟩ := stalled
  · exact Or.inl (ended ▸ more)
  · refine Or.inr ⟨ended ▸ same, ?_, undecided busy open_⟩
    unfold State.IsBusy
    rw [workers]
    exact busy

/-- Settling a fate neither accepts nor refuses, if it does not settle on that. -/
theorem undecided_settledFates {fate : Fate} {settled : Nat}
    (undecided : state.IsUndecided number)
    (fates : after.fates = settledFates state.fates settled fate)
    (givenUp : fate = .givenUp) :
    after.IsUndecided number := by
  unfold State.IsUndecided
  rw [fates]
  exact ⟨fun found => undecided.1 (settledFates_old found (by simp [givenUp])),
    fun found => undecided.2 (settledFates_old found (by simp [givenUp]))⟩

variable [DecidableEq batch]

theorem move
    (stalled : Stalled ends number state)
    (move : Move outcome index state after) :
    Stalled ends number after := by
  cases move with
  | take job may holds =>
      obtain more | ⟨-, busy, -⟩ := stalled
      · exact Or.inl more
      · exact absurd may busy.not_mayReceive
  | pass => exact stalled
  | finish job sending survives => exact stalled.of_longer (by simp)

theorem halt
    (stalled : Stalled ends number state)
    (halt : Halt outcome index state after) :
    Stalled ends number after := by
  cases halt with
  | rest nothing => exact stalled
  | queue other idle turn =>
      obtain more | ⟨-, busy, -⟩ := stalled
      · exact Or.inl more
      · obtain ⟨job, sends⟩ := busy.2 .idle (List.mem_of_getElem? idle) rfl
        cases sends
  | await may empty proceeding =>
      obtain more | ⟨-, busy, -⟩ := stalled
      · exact Or.inl more
      · exact absurd may busy.not_mayReceive
  | exit may empty stopping =>
      obtain more | ⟨-, busy, -⟩ := stalled
      · exact Or.inl more
      · exact absurd may busy.not_mayReceive
  | block job sending => exact stalled
  | crash job sending crashes others => exact stalled.of_longer (by simp)
  | crashLast job sending crashes alone => exact stalled.of_longer (by simp)

theorem step {contents : List batch}
    (stalled : Stalled ends number state)
    (step : Step outcome state contents after) :
    Stalled ends number after := by
  cases step with
  | stay => exact stalled
  | goes ready goes =>
      exact goes.preserves _ _ stalled Stalled.move Stalled.halt
  | admits admission =>
      cases admission with
      | dismiss job ready decided => exact stalled
      | refuse job ready awaited deserted =>
          refine stalled.of_eq rfl rfl ?_
          intro busy _
          exact absurd (busy.isDeserted_eq_false.symm.trans deserted) (by decide)
      | enter job ready awaited staffed room => exact stalled
      | line job ready awaited staffed full => exact stalled
  | changes change =>
      cases change with
      | submit content proceeding =>
          refine stalled.of_eq rfl rfl ?_
          intro _ undecided
          unfold State.IsUndecided at undecided ⊢
          grind
      | giveUp other awaited unpromised =>
          exact stalled.of_eq rfl rfl
            (fun _ undecided => undecided_settledFates undecided rfl rfl)
      | decline job awaited promised =>
          exact stalled.of_eq rfl rfl
            (fun _ undecided => undecided_settledFates undecided rfl rfl)
      | release count permits => exact stalled
      | finish other present => exact stalled
      | stop proceeding settled => exact stalled

end Stalled

/-! ## Steps in any order -/

/-- All that a dispatcher promises of its state between two steps. -/
structure Sound (outcome : Job batch -> Outcome) (limit : Nat) (submitted : List batch)
    (state : State batch) : Prop where
  /-- Everybody who waits is waited for. -/
  ordered : Ordered none state
  /-- Sends and workers are neither lost nor made up. -/
  counted : Counted outcome limit state
  /-- Batches keep their numbers. -/
  numbered : Numbered submitted state
  /-- Submissions are accounted for. -/
  accounted : Accounted outcome state

namespace Sound

variable [DecidableEq batch] {outcome : Job batch -> Outcome} {limit : Nat}
  {submitted contents : List batch} {state after : State batch}

omit [DecidableEq batch] in
theorem fresh (outcome : Job batch -> Outcome) (limit : Nat) :
    Sound outcome limit [] (State.fresh limit) where
  ordered := Ordered.fresh limit
  counted := Counted.fresh outcome limit
  numbered := Numbered.fresh limit
  accounted := Accounted.fresh outcome limit

theorem step
    (sound : Sound outcome limit submitted state)
    (step : Step outcome state contents after) :
    Sound outcome limit (submitted ++ contents) after where
  ordered := sound.ordered.step step
  counted := sound.counted.step step
  numbered := sound.numbered.step step
  accounted := sound.accounted.step sound.counted sound.numbered step

/-- What a dispatcher promises holds after steps in any order. -/
theorem follow
    (sound : Sound outcome limit submitted state)
    (order : List (Action batch)) :
    Sound outcome limit (submitted ++ state.submissions outcome order)
      (State.follow outcome state order) := by
  induction order generalizing state submitted with
  | nil =>
      rw [State.submissions, List.append_nil]
      exact sound
  | cons action rest inductionHypothesis =>
      have next := sound.step (sound.ordered.step_act outcome action)
      have later := inductionHypothesis next
      rw [List.append_assoc] at later
      exact later

/-- A property of states that every step keeps holds after steps in any order. -/
theorem follow_induction (Kept : State batch -> Prop)
    (sound : Sound outcome limit submitted state)
    (start : Kept state)
    (step : ∀ {early late contents}, Kept early -> Step outcome early contents late -> Kept late)
    (order : List (Action batch)) :
    Kept (State.follow outcome state order) := by
  induction order generalizing state submitted with
  | nil => exact start
  | cons action rest inductionHypothesis =>
      have taken := sound.ordered.step_act outcome action
      exact inductionHypothesis (sound.step taken) (step start taken)

theorem extends_follow (outcome : Job batch -> Outcome)
    (sound : Sound outcome limit submitted state)
    (order : List (Action batch)) :
    Extends state (State.follow outcome state order) :=
  sound.follow_induction (Extends state) (Extends.refl state)
    (fun early taken => early.trans (Extends.of_step taken)) order

end Sound
end Dispatch
end Telemetry
