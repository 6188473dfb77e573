import Telemetry.Proofs.Agent.Reports
import Telemetry.Proofs.Agent.Timetable

/-!
# The sends of an agent as a run of its dispatcher

The times at which an agent submits its batches, and its workers start and end
their sends, are those of a run of the dispatcher: each batch is submitted when
it is taken from the store, and each send ends after its span.
-/

namespace Telemetry
namespace Agent

open Dispatch (Event Job Outcome Robust jobs)

variable {outcome : Job (List Metric) -> Outcome} {plan : Plan} {isStopping : Bool}
  {script : Script} {ended goingOn : List (Job (List Metric) × Nat)} {state : State}
  {instant : Nat} {running : Job (List Metric) × Nat}

/-- Among several sends there is one that ends first. -/
theorem exists_first {sends : List (Job (List Metric) × Nat)} (some : sends ≠ []) :
    ∃ first ∈ sends, ∀ other ∈ sends, first.2 ≤ other.2 := by
  cases least : (sends.map Prod.snd).min? with
  | none => exact absurd (List.map_eq_nil_iff.mp (List.min?_eq_none_iff.mp least)) some
  | some time =>
      obtain ⟨present, below⟩ := List.min?_eq_some_iff.mp least
      obtain ⟨first, isSend, rfl⟩ := List.mem_map.mp present
      exact ⟨first, isSend, fun other isOther => below _ (List.mem_map_of_mem isOther)⟩

/--
A script has taken a dispatcher to where an agent is, except that some sends
are still going on.
-/
structure Mirrors (outcome : Job (List Metric) -> Outcome) (plan : Plan) (isStopping : Bool)
    (script : Script) (ended goingOn : List (Job (List Metric) × Nat)) (state : State) : Prop where
  settles : Settles outcome plan.rateLimit isStopping (state.sends.reverse.map Send.batch)
    (timed Send.start state.sends.reverse) ended script
  endsBy : script.EndsBy state.now
  submits : script.submissions = state.sends.reverse.map fun send => (send.taken, send.batch)
  /-- Each send has ended when it should have, or will end when it should. -/
  ends : (ended ++ goingOn).Perm (timed Send.finish state.sends.reverse)
  ahead : ∀ entry ∈ goingOn, state.now ≤ entry.2
  /-- The other workers are free. -/
  free : ∃ idle, state.free.Perm (goingOn.map Prod.snd ++ idle) ∧ ∀ time ∈ idle, time ≤ state.now

namespace Mirrors

theorem start (outcome : Job (List Metric) -> Outcome) (plan : Plan) :
    Mirrors outcome plan false [] [] [] (State.start plan) where
  settles := Settles.nil outcome plan.rateLimit
  endsBy := ⟨List.Pairwise.nil, fun _ never => nomatch never⟩
  submits := rfl
  ends := List.Perm.refl _
  ahead := fun _ never => nomatch never
  free := by
    refine ⟨(State.start plan).free, List.Perm.refl _, ?_⟩
    intro time present
    rw [List.eq_of_mem_replicate present]
    exact Nat.zero_le _

/-- A send that goes on was started and has not ended. -/
theorem unfinished
    (mirrors : Mirrors outcome plan isStopping script ended goingOn state)
    (present : running ∈ goingOn) :
    running.1 ∈ jobs (state.sends.reverse.map Send.batch) ∧ running.1 ∉ ended.map Prod.fst := by
  have all := mirrors.ends.map Prod.fst
  rw [map_fst_timed, List.map_append] at all
  have distinct := all.nodup_iff.mpr mirrors.settles.jobs_nodup
  have goesOn : running.1 ∈ goingOn.map Prod.fst := List.mem_map_of_mem present
  refine ⟨all.mem_iff.mp (List.mem_append_right _ goesOn), ?_⟩
  intro isEnded
  exact (List.nodup_append.mp distinct).2.2 _ isEnded _ goesOn rfl

/-- As many sends are going on as were started and have not ended. -/
theorem length_goingOn
    (mirrors : Mirrors outcome plan isStopping script ended goingOn state) :
    (state.sends.reverse.map Send.batch).length = ended.length + goingOn.length := by
  have all := mirrors.ends.length_eq
  rw [List.length_append, length_timed] at all
  rw [List.length_map, all]

/-! ### Time -/

/-- Time may pass as long as no send ends. -/
theorem wait
    (mirrors : Mirrors outcome plan isStopping script ended goingOn state)
    (later : state.now ≤ instant)
    (ahead : ∀ entry ∈ goingOn, instant ≤ entry.2) :
    Mirrors outcome plan isStopping script ended goingOn { state with now := instant } where
  settles := mirrors.settles
  endsBy := mirrors.endsBy.mono later
  submits := mirrors.submits
  ends := mirrors.ends
  ahead := ahead
  free := by
    obtain ⟨idle, free, past⟩ := mirrors.free
    exact ⟨idle, free, fun time present => Nat.le_trans (past time present) later⟩

/-- The send that is to end next ends. -/
theorem finish
    (mirrors : Mirrors outcome plan isStopping script ended goingOn state)
    (robust : Robust outcome)
    (present : running ∈ goingOn)
    (next : ∀ other ∈ goingOn, running.2 ≤ other.2) :
    ∃ index, Mirrors outcome plan isStopping (script ++ [(running.2, .finish index)])
      (ended ++ [running]) (goingOn.erase running) { state with now := running.2 } := by
  obtain ⟨isStarted, unfinished⟩ := mirrors.unfinished present
  obtain ⟨index, settles⟩ := mirrors.settles.finish robust isStarted unfinished
  have later := mirrors.ahead running present
  refine ⟨index, ?_⟩
  constructor
  case settles => exact settles
  case endsBy => exact mirrors.endsBy.concat later _
  case submits => exact (Script.submissions_concat_finish _ _ _).trans mirrors.submits
  case ends =>
    rw [List.append_assoc]
    exact ((List.perm_cons_erase present).append_left _).symm.trans mirrors.ends
  case ahead =>
    intro entry goesOn
    exact next entry (List.mem_of_mem_erase goesOn)
  case free =>
    obtain ⟨idle, free, past⟩ := mirrors.free
    refine ⟨running.2 :: idle, ?_, ?_⟩
    · have reordered := (List.perm_cons_erase present).map Prod.snd
      refine free.trans ((reordered.append_right idle).trans ?_)
      exact List.perm_middle.symm
    · intro time isFree
      obtain rfl | earlier := List.mem_cons.mp isFree
      · exact Nat.le_refl _
      · exact Nat.le_trans (past time earlier) later

/-- Up to an instant every send that is to end by then ends. -/
theorem advance
    (mirrors : Mirrors outcome plan isStopping script ended goingOn state)
    (robust : Robust outcome)
    (later : state.now ≤ instant) :
    ∃ script ended goingOn,
      Mirrors outcome plan isStopping script ended goingOn { state with now := instant } ∧
        ∀ entry ∈ goingOn, instant < entry.2 := by
  -- Induction on the sends that go on: the one that is to end first ends, or all are ahead.
  induction count : goingOn.length generalizing script ended goingOn state with
  | zero =>
      cases List.eq_nil_of_length_eq_zero count
      exact ⟨script, ended, [], mirrors.wait later (fun _ never => nomatch never),
        fun _ never => nomatch never⟩
  | succ fewer inductionHypothesis =>
      obtain ⟨next, present, first⟩ := exists_first (List.ne_nil_of_length_eq_add_one count)
      by_cases ends : next.2 ≤ instant
      · obtain ⟨index, finished⟩ := mirrors.finish robust present first
        have shorter : (goingOn.erase next).length = fewer := by
          rw [List.length_erase_of_mem present, count, Nat.add_sub_cancel]
        have rest := inductionHypothesis finished ends shorter
        exact rest
      · have ahead : ∀ entry ∈ goingOn, instant < entry.2 := by
          intro entry goesOn
          exact Nat.lt_of_lt_of_le (Nat.lt_of_not_le ends) (first entry goesOn)
        have waited := mirrors.wait later (fun entry goesOn => Nat.le_of_lt (ahead entry goesOn))
        exact ⟨script, ended, goingOn, waited, ahead⟩

/-! ### Submissions -/

/-- The send that is made of a batch that is submitted. -/
def sent (plan : Plan) (state : State) (batch : List Metric) : Send where
  taken := state.now
  start := max state.now state.firstFree
  finish := max state.now state.firstFree + plan.sendSpan state.sends.length
  batch := batch

theorem reverse_sends_submit (plan : Plan) (state : State) (batch : List Metric) :
    (state.submit plan state.now batch).sends.reverse =
      state.sends.reverse ++ [sent plan state batch] :=
  List.reverse_cons

/-- The job that is made of a batch that is submitted, with the end of its send. -/
def begun (plan : Plan) (state : State) (batch : List Metric) : Job (List Metric) × Nat :=
  (⟨state.sends.length, batch⟩, (sent plan state batch).finish)

theorem timed_submit (time : Send -> Nat) (batch : List Metric) :
    timed time (state.submit plan state.now batch).sends.reverse =
      timed time state.sends.reverse ++
        [(⟨state.sends.length, batch⟩, time (sent plan state batch))] := by
  rw [reverse_sends_submit, timed_concat, List.length_reverse]
  rfl

/-- A batch is submitted once a script has come to where its send starts. -/
theorem submit {tail : Script} {done others : List (Job (List Metric) × Nat)} {batch : List Metric}
    (mirrors : Mirrors outcome plan false script ended goingOn state)
    (starts : (sent plan state batch).start = instant)
    (settles : Settles outcome plan.rateLimit false
      (state.sends.reverse.map Send.batch ++ [batch])
      (timed Send.start state.sends.reverse ++
        [(⟨(state.sends.reverse.map Send.batch).length, batch⟩, instant)])
      (ended ++ done) (script ++ tail))
    (endsBy : Script.EndsBy (script ++ tail) instant)
    (submits : tail.submissions = [(state.now, batch)])
    (ends : (done ++ others).Perm goingOn)
    (ahead : ∀ entry ∈ others, instant ≤ entry.2)
    (free : ∃ idle, (state.free.erase state.firstFree).Perm (others.map Prod.snd ++ idle) ∧
      ∀ time ∈ idle, time ≤ instant) :
    Mirrors outcome plan false (script ++ tail) (ended ++ done)
      (others ++ [begun plan state batch]) (state.submit plan state.now batch) := by
  subst starts
  constructor
  case settles =>
    rw [reverse_sends_submit, List.map_append, timed_concat, List.length_reverse]
    rw [List.length_map, List.length_reverse] at settles
    exact settles
  case endsBy => exact endsBy
  case submits =>
    rw [reverse_sends_submit, List.map_append, Script.submissions_append, mirrors.submits, submits]
    rfl
  case ends =>
    rw [timed_submit, List.append_assoc, ← List.append_assoc, ← List.append_assoc,
      List.append_assoc ended]
    exact ((ends.append_left ended).trans mirrors.ends).append_right _
  case ahead =>
    intro entry present
    obtain earlier | last := List.mem_append.mp present
    · exact ahead entry earlier
    · rw [List.mem_singleton.mp last]
      exact Nat.le_add_right _ _
  case free =>
    obtain ⟨idle, workers, past⟩ := free
    refine ⟨idle, ?_, past⟩
    rw [List.map_append, List.append_assoc]
    exact (workers.cons _).trans List.perm_middle.symm

/-- A batch that finds a worker free is taken at once. -/
theorem submit_of_free
    (mirrors : Mirrors outcome plan false script ended goingOn state)
    (robust : Robust outcome)
    (timely : state.Timely plan)
    (ahead : ∀ entry ∈ goingOn, state.now < entry.2)
    (free : state.firstFree ≤ state.now)
    (batch : List Metric) :
    Mirrors outcome plan false (script ++ [(state.now, .submit batch)]) (ended ++ [])
      (goingOn ++ [begun plan state batch]) (state.submit plan state.now batch) := by
  obtain ⟨idle, reordered, past⟩ := mirrors.free
  have atOnce : (sent plan state batch).start = state.now := Nat.max_eq_left free
  have isFree := reordered.mem_iff.mp (State.firstFree_mem timely.free_ne_nil)
  have notGoingOn : state.firstFree ∉ goingOn.map Prod.snd := by
    intro sends
    obtain ⟨entry, present, same⟩ := List.mem_map.mp sends
    have late := ahead entry present
    omega
  have isIdle := (List.mem_append.mp isFree).resolve_left notGoingOn
  have room : (state.sends.reverse.map Send.batch).length <
      ended.length + max plan.rateLimit 1 := by
    have workers := reordered.length_eq
    have positive := List.length_pos_of_mem isIdle
    rw [timely.staffed, List.length_append, List.length_map] at workers
    rw [mirrors.length_goingOn]
    omega
  have taken := mirrors.settles.submit robust room batch state.now
  rw [← List.append_nil ended] at taken
  refine mirrors.submit atOnce taken ?endsBy rfl (List.Perm.refl goingOn) ?ahead ?free
  case endsBy => exact mirrors.endsBy.concat (Nat.le_refl _) _
  case ahead => exact mirrors.ahead
  case free =>
    have others := reordered.erase state.firstFree
    rw [List.erase_append_right _ notGoingOn] at others
    exact ⟨_, others, fun time isIdle => past time (List.mem_of_mem_erase isIdle)⟩

/-- A batch that finds every worker busy is taken when the first send ends. -/
theorem submit_of_busy
    (mirrors : Mirrors outcome plan false script ended goingOn state)
    (robust : Robust outcome)
    (timely : state.Timely plan)
    (busy : state.now < state.firstFree)
    (batch : List Metric) :
    ∃ running ∈ goingOn, ∃ index, Mirrors outcome plan false
      (script ++ [(state.now, .submit batch), (running.2, .finish index)]) (ended ++ [running])
      (goingOn.erase running ++ [begun plan state batch]) (state.submit plan state.now batch) := by
  obtain ⟨idle, reordered, past⟩ := mirrors.free
  have nobody : idle = [] := by
    refine List.eq_nil_iff_forall_not_mem.mpr ?_
    intro time isIdle
    have early := past time isIdle
    have late := State.firstFree_le (reordered.mem_iff.mpr (List.mem_append_right _ isIdle))
    omega
  rw [nobody, List.append_nil] at reordered
  have isFree := reordered.mem_iff.mp (State.firstFree_mem timely.free_ne_nil)
  obtain ⟨running, present, first⟩ := List.mem_map.mp isFree
  have later : (sent plan state batch).start = running.2 :=
    (Nat.max_eq_right (Nat.le_of_lt busy)).trans first.symm
  have full : (state.sends.reverse.map Send.batch).length =
      ended.length + max plan.rateLimit 1 := by
    have workers := reordered.length_eq
    rw [timely.staffed, List.length_map] at workers
    rw [mirrors.length_goingOn, workers]
  obtain ⟨isStarted, unfinished⟩ := mirrors.unfinished present
  obtain ⟨index, taken⟩ :=
    mirrors.settles.submit_of_full robust full isStarted unfinished batch state.now
  rw [List.append_assoc] at taken
  have parted := (List.perm_cons_erase present).symm
  refine ⟨running, present, index, ?_⟩
  refine mirrors.submit later taken ?endsBy rfl parted ?ahead ?free
  case endsBy =>
    have submitted := mirrors.endsBy.concat (Nat.le_refl _) (.submit batch)
    have finished := submitted.concat (mirrors.ahead running present) (.finish index)
    rwa [List.append_assoc] at finished
  case ahead =>
    intro entry goesOn
    rw [first]
    refine State.firstFree_le (reordered.mem_iff.mpr ?_)
    exact List.mem_map_of_mem (List.mem_of_mem_erase goesOn)
  case free =>
    have others := (reordered.trans ((List.perm_cons_erase present).map Prod.snd)).erase
      state.firstFree
    rw [List.map_cons, first, List.erase_cons_head] at others
    rw [← List.append_nil ((goingOn.erase running).map Prod.snd)] at others
    exact ⟨[], others, fun _ never => nomatch never⟩

/-- Whether a store is submitted or not, a run of the dispatcher mirrors the agent. -/
theorem submitStore
    (mirrors : Mirrors outcome plan false script ended goingOn state)
    (robust : Robust outcome)
    (timely : state.Timely plan)
    (later : state.now ≤ instant)
    (store : Store) :
    ∃ script ended goingOn,
      Mirrors outcome plan false script ended goingOn (state.submitStore plan instant store) := by
  obtain ⟨script, ended, goingOn, advanced, ahead⟩ := mirrors.advance robust later
  have waited := timely.wait later
  unfold State.submitStore
  split
  next empty => exact ⟨script, ended, goingOn, advanced⟩
  next filled =>
    obtain busy | free := Nat.lt_or_ge instant (State.firstFree { state with now := instant })
    · obtain ⟨running, -, index, taken⟩ :=
        advanced.submit_of_busy robust waited busy store.metrics
      exact ⟨_, _, _, taken⟩
    · exact ⟨_, _, _, advanced.submit_of_free robust waited ahead free store.metrics⟩

theorem report
    (mirrors : Mirrors outcome plan false script ended goingOn state)
    (robust : Robust outcome)
    (timely : state.Timely plan)
    (later : state.now ≤ instant) :
    ∃ script ended goingOn,
      Mirrors outcome plan false script ended goingOn (state.report plan instant) := by
  obtain ⟨script, ended, goingOn, taken⟩ :=
    mirrors.submitStore robust timely later (plan.storeAt instant)
  exact ⟨script, ended, goingOn, taken.settles, taken.endsBy, taken.submits, taken.ends,
    taken.ahead, taken.free⟩

/-! ### The shutdown -/

/-- Once nothing more is submitted, the dispatcher is shut down. -/
theorem shutdown
    (mirrors : Mirrors outcome plan false script ended goingOn state) :
    Mirrors outcome plan true (script ++ [(state.now, .shutdown)]) ended goingOn state where
  settles := mirrors.settles.shutdown state.now
  endsBy := mirrors.endsBy.concat (Nat.le_refl _) _
  submits := (Script.submissions_concat_shutdown _ _).trans mirrors.submits
  ends := mirrors.ends
  ahead := mirrors.ahead
  free := mirrors.free

/-- The shutdown is complete once no send is going on. -/
theorem isShutDown_iff
    (mirrors : Mirrors outcome plan true script ended goingOn state) :
    (script.play outcome plan.rateLimit).state.isShutDown = true ↔ goingOn = [] := by
  rw [mirrors.settles.isShutDown_iff, mirrors.length_goingOn, ← List.length_eq_zero_iff]
  omega

/-- After the shutdown was asked for, it is complete when the last send ends. -/
theorem drain {before : Script} {event : Event (List Metric)}
    (mirrors : Mirrors outcome plan true script ended goingOn state)
    (robust : Robust outcome)
    (last : script = before ++ [(state.now, event)])
    (unfinished : (before.play outcome plan.rateLimit).state.isShutDown = false) :
    ∃ (script before : Script) (event : Event (List Metric)) (ended : _),
      Mirrors outcome plan true script ended [] { state with now := state.lastFree } ∧
        script = before ++ [(state.lastFree, event)] ∧
        (before.play outcome plan.rateLimit).state.isShutDown = false := by
  induction count : goingOn.length generalizing script ended goingOn state before event with
  | zero =>
      cases List.eq_nil_of_length_eq_zero count
      obtain ⟨idle, free, past⟩ := mirrors.free
      have now : state.lastFree = state.now := by
        refine Nat.le_antisymm (State.lastFree_le (Nat.le_refl _) ?_) state.now_le_lastFree
        exact fun time present => past time (free.mem_iff.mp present)
      rw [now]
      exact ⟨script, before, event, ended, mirrors, last, unfinished⟩
  | succ fewer inductionHypothesis =>
      have going := List.ne_nil_of_length_eq_add_one count
      obtain ⟨next, present, first⟩ := exists_first going
      obtain ⟨index, finished⟩ := mirrors.finish robust present first
      have shorter : (goingOn.erase next).length = fewer := by
        rw [List.length_erase_of_mem present, count, Nat.add_sub_cancel]
      have still : (script.play outcome plan.rateLimit).state.isShutDown = false := by
        rw [← Bool.not_eq_true, mirrors.isShutDown_iff]
        exact going
      have rest := inductionHypothesis finished rfl still shorter
      have same : State.lastFree { state with now := next.2 } = state.lastFree := by
        obtain ⟨idle, free, -⟩ := mirrors.free
        refine State.lastFree_wait (mirrors.ahead next present) (State.le_lastFree ?_)
        exact free.mem_iff.mpr (List.mem_append_left _ (List.mem_map_of_mem present))
      rw [same] at rest
      exact rest

end Mirrors

/-- The sends of an agent are those of a run of its dispatcher. -/
theorem Plan.exists_serves (plan : Plan) (robust : Robust outcome) :
    ∃ script, Serves outcome plan.rateLimit plan.run.sends plan.run.closedAt script := by
  have reported : plan.reported.Timely plan ∧
      ∃ script ended goingOn, Mirrors outcome plan false script ended goingOn plan.reported := by
    refine plan.reported_induction (fun state => state.Timely plan ∧
      ∃ script ended goingOn, Mirrors outcome plan false script ended goingOn state) ?_ ?_
    · exact ⟨State.Timely.start plan, [], [], [], Mirrors.start outcome plan⟩
    · rintro state instant later ⟨timely, script, ended, goingOn, mirrors⟩
      exact ⟨timely.report later, mirrors.report robust timely later⟩
  obtain ⟨timely, script, ended, goingOn, mirrors⟩ := reported
  obtain ⟨script, ended, goingOn, concluded⟩ := mirrors.submitStore robust timely
    plan.now_reported_le_leftAt plan.storeLeft
  have proceeding : (script.play outcome plan.rateLimit).state.isShutDown = false := by
    unfold Dispatch.State.isShutDown
    rw [concluded.settles.stopping]
    rfl
  obtain ⟨script, before, event, ended, mirrors, last, unfinished⟩ :=
    concluded.shutdown.drain robust rfl proceeding
  have closed := mirrors.isShutDown_iff.mpr rfl
  have ends := mirrors.ends
  rw [List.append_nil] at ends
  refine ⟨script, ?_⟩
  constructor
  case ordered => exact mirrors.endsBy.ordered
  case submits =>
    rw [plan.sends_run]
    exact mirrors.submits
  case starts =>
    rw [plan.sends_run]
    exact mirrors.settles.starts
  case ends =>
    rw [plan.sends_run, mirrors.settles.ends]
    exact ends
  case closes => exact ⟨closed, before, event, last, unfinished⟩

end Agent
end Telemetry
