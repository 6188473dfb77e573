import Mathlib.Data.List.Basic
import Telemetry.Proofs.Agent.Counters

/-!
# The sends of an agent in time

An agent makes no further report until a worker has taken the batch of the last
one.  So batches are taken one after another, and there are never more sends at
a time than workers.
-/

namespace Telemetry
namespace Agent

/-- Whether a send is going on at an instant. -/
def Send.isGoingOn (send : Send) (instant : Nat) : Bool :=
  send.start ≤ instant && instant < send.finish

theorem Send.isGoingOn_iff (send : Send) (instant : Nat) :
    send.isGoingOn instant = true ↔ send.start ≤ instant ∧ instant < send.finish := by
  simp [Send.isGoingOn]

namespace State

variable {plan : Plan} {state : State} {instant : Nat}

/-! ## When workers are free -/

theorem firstFree_mem (staffed : state.free ≠ []) : state.firstFree ∈ state.free := by
  unfold firstFree
  cases first : state.free.min? with
  | none => exact absurd (List.min?_eq_none_iff.mp first) staffed
  | some time => exact List.min?_mem first

theorem firstFree_le {time : Nat} (present : time ∈ state.free) : state.firstFree ≤ time := by
  unfold firstFree
  cases first : state.free.min? with
  | none => exact Nat.zero_le time
  | some earliest => exact (List.min?_eq_some_iff.mp first).2 time present

theorem le_foldl_max (times : List Nat) (floor : Nat) :
    floor ≤ times.foldl max floor ∧ ∀ time ∈ times, time ≤ times.foldl max floor := by
  induction times generalizing floor with
  | nil => exact ⟨Nat.le_refl floor, fun _ never => nomatch never⟩
  | cons first rest inductionHypothesis =>
      obtain ⟨above, aboveRest⟩ := inductionHypothesis (max floor first)
      rw [List.foldl_cons]
      refine ⟨by omega, ?_⟩
      intro time present
      obtain rfl | inRest := List.mem_cons.mp present
      · omega
      · exact aboveRest time inRest

theorem foldl_max_le {times : List Nat} {floor bound : Nat}
    (above : floor ≤ bound)
    (aboveAll : ∀ time ∈ times, time ≤ bound) :
    times.foldl max floor ≤ bound := by
  induction times generalizing floor with
  | nil => exact above
  | cons first rest inductionHypothesis =>
      have aboveFirst := aboveAll first List.mem_cons_self
      exact inductionHypothesis (by omega)
        (fun time present => aboveAll time (List.mem_cons_of_mem _ present))

theorem now_le_lastFree (state : State) : state.now ≤ state.lastFree :=
  (le_foldl_max state.free state.now).1

theorem le_lastFree {time : Nat} (present : time ∈ state.free) : time ≤ state.lastFree :=
  (le_foldl_max state.free state.now).2 time present

theorem lastFree_le {bound : Nat}
    (later : state.now ≤ bound)
    (free : ∀ time ∈ state.free, time ≤ bound) :
    state.lastFree ≤ bound :=
  foldl_max_le later free

/-- Waiting until some worker is free does not change when all of them are. -/
theorem lastFree_wait
    (later : state.now ≤ instant)
    (early : instant ≤ state.lastFree) :
    State.lastFree { state with now := instant } = state.lastFree := by
  apply Nat.le_antisymm
  · exact lastFree_le early (fun _ present => le_lastFree present)
  · refine lastFree_le ?_ (fun _ present => ?_)
    · exact Nat.le_trans later (now_le_lastFree { state with now := instant })
    · exact (le_foldl_max state.free instant).2 _ present

/-! ## One report after another -/

/-- The sends so far keep to the number of workers and follow one another. -/
structure Timely (plan : Plan) (state : State) : Prop where
  /-- There are as many workers as the limit allows, and at least one. -/
  staffed : state.free.length = max plan.rateLimit 1
  /-- A worker takes a batch at once or later, and sends it for its span. -/
  spans : ∀ number send, state.sends.reverse[number]? = some send ->
    send.taken ≤ send.start ∧ send.finish = send.start + plan.sendSpan number
  /-- All that was submitted has been taken by a worker. -/
  started : ∀ send ∈ state.sends, send.start ≤ state.now
  /-- A batch is taken from the store once a worker has taken the one before it. -/
  inTurn : state.sends.Pairwise fun late early => early.start ≤ late.taken
  /-- Every send that is still to end keeps a worker busy. -/
  busy : ∀ instant, state.now ≤ instant ->
    (state.sends.countP fun send => instant < send.finish) ≤
      state.free.countP fun time => instant < time
  /-- There are never more sends at a time than workers. -/
  bounded : ∀ instant,
    (state.sends.countP fun send => send.isGoingOn instant) ≤ max plan.rateLimit 1

theorem Timely.start (plan : Plan) : (State.start plan).Timely plan where
  staffed := List.length_replicate
  spans := by
    intro number send found
    cases found
  started := by
    intro send never
    cases never
  inTurn := List.Pairwise.nil
  busy := fun _ _ => Nat.zero_le _
  bounded := fun _ => Nat.zero_le _

namespace Timely

theorem free_ne_nil (timely : state.Timely plan) : state.free ≠ [] := by
  have staffed := timely.staffed
  intro empty
  rw [empty, List.length_nil] at staffed
  omega

/-- From the moment that a batch is taken on, its worker counts as busy only for its sake. -/
theorem countP_erase_firstFree
    (timely : state.Timely plan)
    (late : state.firstFree ≤ instant) :
    (state.free.erase state.firstFree).countP (fun time => instant < time) =
        (state.free.countP fun time => instant < time) ∧
      (state.free.countP fun time => instant < time) + 1 ≤ max plan.rateLimit 1 := by
  have reordered := List.perm_cons_erase (firstFree_mem timely.free_ne_nil)
  have count := reordered.countP_eq fun time => decide (instant < time)
  have length := reordered.length_eq
  rw [List.countP_cons_of_neg (by simpa using late)] at count
  rw [List.length_cons, timely.staffed] at length
  have atMost := List.countP_le_length (p := fun time => decide (instant < time))
    (l := state.free.erase state.firstFree)
  omega

/-- Submitting a batch keeps to the number of workers. -/
theorem submit
    (timely : state.Timely plan)
    (later : state.now ≤ instant)
    (batch : List Metric) :
    (state.submit plan instant batch).Timely plan := by
  have staffed := timely.free_ne_nil
  have waits : instant ≤ max instant state.firstFree := Nat.le_max_left _ _
  have frees : state.firstFree ≤ max instant state.firstFree := Nat.le_max_right _ _
  constructor
  case staffed =>
    unfold State.submit
    dsimp only
    rw [List.length_cons, List.length_erase_of_mem (firstFree_mem staffed),
      Nat.sub_add_cancel (List.length_pos_of_ne_nil staffed), timely.staffed]
  case spans =>
    intro number send found
    unfold State.submit at found
    dsimp only at found
    rw [List.reverse_cons, List.getElem?_append] at found
    split at found
    next isEarlier => exact timely.spans number send found
    next isLast =>
      rw [List.getElem?_singleton] at found
      split at found
      next zero =>
        cases found
        rw [List.length_reverse] at isLast zero
        have same : number = state.sends.length := by omega
        subst same
        exact ⟨waits, rfl⟩
      next => cases found
  case started =>
    intro send present
    obtain rfl | earlier := List.mem_cons.mp present
    · exact Nat.le_refl _
    · exact Nat.le_trans (timely.started send earlier) (Nat.le_trans later waits)
  case inTurn =>
    refine List.pairwise_cons.mpr ⟨?_, timely.inTurn⟩
    intro send earlier
    exact Nat.le_trans (timely.started send earlier) later
  case busy =>
    intro moment onwards
    have onwards : max instant state.firstFree ≤ moment := onwards
    have others := timely.busy moment (Nat.le_trans later (Nat.le_trans waits onwards))
    have erased := (timely.countP_erase_firstFree (Nat.le_trans frees onwards)).1
    unfold State.submit
    dsimp only
    rw [List.countP_cons, List.countP_cons]
    dsimp only
    omega
  case bounded =>
    intro moment
    unfold State.submit
    dsimp only
    by_cases before : moment < max instant state.firstFree
    · rw [List.countP_cons_of_neg]
      · exact timely.bounded moment
      · rw [Send.isGoingOn_iff]
        dsimp only
        omega
    · have onwards : max instant state.firstFree ≤ moment := Nat.le_of_not_lt before
      have others := timely.busy moment (Nat.le_trans later (Nat.le_trans waits onwards))
      have spare := (timely.countP_erase_firstFree (Nat.le_trans frees onwards)).2
      have fewer : (state.sends.countP fun send => send.isGoingOn moment) ≤
          state.sends.countP fun send => moment < send.finish := by
        refine List.countP_mono_left ?_
        intro send _ goesOn
        exact decide_eq_true ((send.isGoingOn_iff moment).mp goesOn).2
      rw [List.countP_cons]
      split <;> omega

/-- Time may pass. -/
theorem wait
    (timely : state.Timely plan)
    (later : state.now ≤ instant) :
    State.Timely plan { state with now := instant } where
  staffed := timely.staffed
  spans := timely.spans
  started := fun send present => Nat.le_trans (timely.started send present) later
  inTurn := timely.inTurn
  busy := fun moment onwards => timely.busy moment (Nat.le_trans later onwards)
  bounded := timely.bounded

theorem submitStore
    (timely : state.Timely plan)
    (later : state.now ≤ instant)
    (store : Store) :
    (state.submitStore plan instant store).Timely plan := by
  unfold State.submitStore
  split
  · exact timely.wait later
  · exact timely.submit later store.metrics

theorem report
    (timely : state.Timely plan)
    (later : state.now ≤ instant) :
    (state.report plan instant).Timely plan := by
  have submitted := timely.submitStore later (plan.storeAt instant)
  exact ⟨submitted.staffed, submitted.spans, submitted.started, submitted.inTurn, submitted.busy,
    submitted.bounded⟩

theorem taken_le_start {send : Send}
    (timely : state.Timely plan)
    (present : send ∈ state.sends) :
    send.taken ≤ send.start := by
  obtain ⟨number, found⟩ := List.mem_iff_getElem?.mp (List.mem_reverse.mpr present)
  exact (timely.spans number send found).1

/-- Once every worker is free, every send has ended. -/
theorem finish_le_lastFree {send : Send}
    (timely : state.Timely plan)
    (present : send ∈ state.sends) :
    send.finish ≤ state.lastFree := by
  refine Nat.le_of_not_lt ?_
  intro unfinished
  have busy := timely.busy state.lastFree state.now_le_lastFree
  have some : 0 < state.sends.countP fun send => state.lastFree < send.finish :=
    List.countP_pos_iff.mpr ⟨send, present, decide_eq_true unfinished⟩
  have none : (state.free.countP fun time => state.lastFree < time) = 0 := by
    refine List.countP_eq_zero.mpr ?_
    intro time isFree
    simpa using le_lastFree isFree
  omega

end Timely

/-! ## The content of the batches -/

/-- Every batch is the content of the store that its report found, and is not empty. -/
def Truthful (plan : Plan) (state : State) : Prop :=
  ∀ send ∈ state.sends,
    send.batch = (plan.storeAt send.taken).metrics ∧ (plan.storeAt send.taken).isEmpty = false

theorem Truthful.report
    (truthful : state.Truthful plan)
    (instant : Nat) :
    (state.report plan instant).Truthful plan := by
  intro send present
  unfold State.report submitStore at present
  dsimp only at present
  split at present
  next empty => exact truthful send present
  next filled =>
    obtain rfl | earlier := List.mem_cons.mp present
    · exact ⟨rfl, Bool.eq_false_iff.mpr filled⟩
    · exact truthful send earlier

/-! ## Reporting until the stop -/

/-- What every report keeps is kept until the agent leaves off reporting. -/
theorem reportUntilStop_induction
    (Kept : State -> Prop)
    (kept : ∀ state instant, state.now ≤ instant -> Kept state -> Kept (state.report plan instant))
    (overtime : List Bool)
    (initial : Kept state) :
    Kept (state.reportUntilStop plan overtime).1 ∧
      (state.reportUntilStop plan overtime).2 =
        max (state.reportUntilStop plan overtime).1.now plan.stopAt := by
  fun_induction reportUntilStop plan overtime state with
  | case1 overtime state instant stop before inductionHypothesis =>
      exact inductionHypothesis (kept state instant (Nat.le_max_left _ _) initial)
  | case2 state instant stop notBefore rest same inductionHypothesis =>
      exact inductionHypothesis (kept state instant (Nat.le_max_left _ _) initial)
  | case3 => exact ⟨initial, rfl⟩
  | case4 => exact ⟨initial, rfl⟩

end State

/-! ## The run as a whole -/

namespace Plan

/-- The agent when it has left off reporting. -/
def reported (plan : Plan) : State :=
  ((State.start plan).reportUntilStop plan plan.overtime).1

/-- The store when the collectors of the agent have been stopped. -/
def storeLeft (plan : Plan) : Store :=
  plan.storeAfter plan.run.leftAt plan.run.hasReported

/-- The agent when a worker has taken its last report. -/
def concluded (plan : Plan) : State :=
  plan.reported.submitStore plan plan.run.leftAt plan.storeLeft

variable (plan : Plan)

theorem reports_run : plan.run.reports = plan.reported.sends.reverse := rfl

/-- The agent makes a last report unless the store is empty. -/
theorem final_run :
    plan.run.final =
      if plan.storeLeft.isEmpty then none
      else plan.concluded.sends.head? := by
  change (if plan.reported.sends.length < plan.concluded.sends.length then
    plan.concluded.sends.head? else none) = _
  unfold concluded State.submitStore
  split
  · rw [if_neg (Nat.lt_irrefl _)]
  · exact if_pos (Nat.lt_succ_self _)

/-- The last report submits the store that all polls have left. -/
theorem eq_of_final_run {send : Send} (last : plan.run.final = some send) :
    send.taken = plan.run.leftAt ∧ send.batch = plan.storeLeft.metrics ∧
      plan.storeLeft.isEmpty = false := by
  rw [final_run] at last
  unfold concluded State.submitStore at last
  split at last
  next => cases last
  next filled =>
    cases last
    exact ⟨rfl, rfl, Bool.eq_false_iff.mpr filled⟩

theorem final_run_eq_none_iff :
    plan.run.final = none ↔ plan.storeLeft.isEmpty = true := by
  rw [final_run]
  unfold concluded State.submitStore
  split
  next empty => exact ⟨fun _ => empty, fun _ => rfl⟩
  next filled =>
    refine ⟨?_, fun empty => absurd empty filled⟩
    intro never
    cases never

theorem sends_run : plan.run.sends = plan.concluded.sends.reverse := by
  unfold Run.sends
  rw [reports_run, final_run]
  unfold concluded State.submitStore
  split
  · exact List.append_nil _
  · exact List.reverse_cons.symm

/-- What every report keeps holds when the agent has left off reporting. -/
theorem reported_induction
    (Kept : State -> Prop)
    (initial : Kept (State.start plan))
    (kept : ∀ state instant, state.now ≤ instant -> Kept state ->
      Kept (state.report plan instant)) :
    Kept plan.reported :=
  (State.reportUntilStop_induction Kept kept plan.overtime initial).1

theorem leftAt_run : plan.run.leftAt = max plan.reported.now plan.stopAt :=
  (State.reportUntilStop_induction (fun _ => True) (fun _ _ _ _ => trivial) plan.overtime
    trivial).2

theorem now_reported_le_leftAt : plan.reported.now ≤ plan.run.leftAt := by
  rw [leftAt_run]
  exact Nat.le_max_left _ _

theorem timely_reported : plan.reported.Timely plan :=
  plan.reported_induction (State.Timely plan) (State.Timely.start plan)
    (fun _ _ later timely => timely.report later)

theorem timely_concluded : plan.concluded.Timely plan :=
  plan.timely_reported.submitStore plan.now_reported_le_leftAt _

theorem truthful_reported : plan.reported.Truthful plan := by
  refine plan.reported_induction (State.Truthful plan) ?_ ?_
  · intro send never
    cases never
  · exact fun _ instant _ truthful => truthful.report instant

theorem leftAt_le_now_concluded : plan.run.leftAt ≤ plan.concluded.now := by
  unfold concluded State.submitStore
  split
  · exact Nat.le_refl _
  · exact Nat.le_max_left _ _

end Plan
end Agent
end Telemetry
