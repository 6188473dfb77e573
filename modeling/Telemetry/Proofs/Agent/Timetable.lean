import Telemetry.Agent.Run
import Telemetry.Proofs.Dispatch.Steady

/-!
# Dispatchers on a timetable

A script says at which times batches are submitted, sends end and the
dispatcher is shut down.  Playing it tells at which times each send starts and
ends.
-/

namespace Telemetry
namespace Agent

open Dispatch (Event Job Outcome Robust Stalling Steady jobs)

/-! ## Scripts -/

/-- Events of a dispatcher with their times. -/
abbrev Script : Type :=
  List (Nat × Event (List Metric))

/-- What a dispatcher has come to, and when its sends started and ended. -/
structure Record where
  /-- The dispatcher. -/
  state : Dispatch.State (List Metric)
  /-- The sends that were started, with their times. -/
  starts : List (Job (List Metric) × Nat) := []
  /-- The sends that have ended, with their times. -/
  ends : List (Job (List Metric) × Nat) := []

/-- Notes what an event starts and ends. -/
def Record.next (outcome : Job (List Metric) -> Outcome) (record : Record)
    (entry : Nat × Event (List Metric)) : Record :=
  let after := (Dispatch.State.step outcome record.state entry.2).1
  { state := after
    starts := record.starts ++
      (after.started.drop record.state.started.length).map fun job => (job, entry.1)
    ends := record.ends ++
      (after.ended.drop record.state.ended.length).map fun job => (job, entry.1) }

/-- What a dispatcher does whose events are those of a script. -/
def Script.play (outcome : Job (List Metric) -> Outcome) (limit : Nat) (script : Script) :
    Record :=
  script.foldl (Record.next outcome) { state := Dispatch.State.start outcome limit }

/-- The batches that a script submits, with their times. -/
def Script.submissions (script : Script) : List (Nat × List Metric) :=
  script.filterMap fun entry =>
    match entry.2 with
    | .submit content => some (entry.1, content)
    | _ => none

/-- Sends under the numbers of their batches, each with a time of its own. -/
def timed (time : Send -> Nat) (sends : List Send) : List (Job (List Metric) × Nat) :=
  sends.mapIdx fun number send => (⟨number, send.batch⟩, time send)

/-- The events of a script make a dispatcher start and end sends as told. -/
structure Serves (outcome : Job (List Metric) -> Outcome) (limit : Nat) (sends : List Send)
    (closedAt : Nat) (script : Script) : Prop where
  /-- The events follow one another. -/
  ordered : script.Pairwise fun early late => early.1 ≤ late.1
  /-- Each batch is submitted once, when it was taken from the store. -/
  submits : script.submissions = sends.map fun send => (send.taken, send.batch)
  /-- Each batch is sent once, in order, and its send starts as told. -/
  starts : (script.play outcome limit).starts = timed Send.start sends
  /-- Each send ends as told. -/
  ends : (script.play outcome limit).ends.Perm (timed Send.finish sends)
  /-- The shutdown is complete in the end, and no earlier. -/
  closes : (script.play outcome limit).state.isShutDown = true ∧
    ∃ (before : Script) (event : Event (List Metric)), script = before ++ [(closedAt, event)] ∧
      (before.play outcome limit).state.isShutDown = false

variable {outcome : Job (List Metric) -> Outcome} {limit : Nat} {script : Script}
  {time : Nat} {event : Event (List Metric)}

namespace Script

variable (outcome limit script) in
theorem play_concat (entry : Nat × Event (List Metric)) :
    Script.play outcome limit (script ++ [entry]) =
      (script.play outcome limit).next outcome entry :=
  List.foldl_concat _ _ _ _

/-- The events of a script follow one another up to a time. -/
structure EndsBy (script : Script) (time : Nat) : Prop where
  ordered : script.Pairwise fun early late => early.1 ≤ late.1
  past : ∀ entry ∈ script, entry.1 ≤ time

theorem EndsBy.mono {now : Nat} (endsBy : script.EndsBy now) (later : now ≤ time) :
    script.EndsBy time :=
  ⟨endsBy.ordered, fun entry present => Nat.le_trans (endsBy.past entry present) later⟩

theorem EndsBy.concat {now : Nat}
    (endsBy : script.EndsBy now)
    (later : now ≤ time)
    (event : Event (List Metric)) :
    Script.EndsBy (script ++ [(time, event)]) time where
  ordered := by
    refine List.pairwise_append.mpr ⟨endsBy.ordered, List.pairwise_singleton _ _, ?_⟩
    intro entry present last isLast
    rw [List.mem_singleton.mp isLast]
    exact Nat.le_trans (endsBy.past entry present) later
  past := by
    intro entry present
    obtain earlier | last := List.mem_append.mp present
    · exact Nat.le_trans (endsBy.past entry earlier) later
    · exact Nat.le_of_eq (congrArg Prod.fst (List.mem_singleton.mp last))

theorem submissions_append (early late : Script) :
    Script.submissions (early ++ late) = early.submissions ++ late.submissions :=
  List.filterMap_append

theorem submissions_concat_finish (script : Script) (time index : Nat) :
    Script.submissions (script ++ [(time, .finish index)]) = script.submissions :=
  (submissions_append _ _).trans (List.append_nil _)

theorem submissions_concat_shutdown (script : Script) (time : Nat) :
    Script.submissions (script ++ [(time, .shutdown)]) = script.submissions :=
  (submissions_append _ _).trans (List.append_nil _)

end Script

/-- An event is noted with the sends that it starts and ends. -/
theorem Record.next_eq {record : Record} (begun done : List (Job (List Metric))) (time : Nat)
    (started : (Dispatch.State.step outcome record.state event).1.started =
      record.state.started ++ begun)
    (ended : (Dispatch.State.step outcome record.state event).1.ended =
      record.state.ended ++ done) :
    record.next outcome (time, event) =
      { state := (Dispatch.State.step outcome record.state event).1
        starts := record.starts ++ begun.map fun job => (job, time)
        ends := record.ends ++ done.map fun job => (job, time) } := by
  unfold Record.next
  dsimp only
  rw [started, ended, List.drop_left, List.drop_left]

theorem timed_concat (time : Send -> Nat) (sends : List Send) (send : Send) :
    timed time (sends ++ [send]) = timed time sends ++ [(⟨sends.length, send.batch⟩, time send)] :=
  List.mapIdx_concat

@[simp] theorem length_timed (time : Send -> Nat) (sends : List Send) :
    (timed time sends).length = sends.length :=
  List.length_mapIdx

theorem map_fst_timed (time : Send -> Nat) (sends : List Send) :
    (timed time sends).map Prod.fst = jobs (sends.map Send.batch) := by
  apply List.ext_getElem?
  intro number
  simp [timed, jobs, Function.comp_def]

/-! ## What playing a script comes to -/

/-- A script starts the batches of submissions and ends some of them, at these times. -/
structure Plays (outcome : Job (List Metric) -> Outcome) (limit : Nat) (isStopping : Bool)
    (contents : List (List Metric)) (begins finishes : List (Job (List Metric) × Nat))
    (script : Script) : Prop where
  started : (script.play outcome limit).state.started = jobs contents
  ended : (script.play outcome limit).state.ended = finishes.map Prod.fst
  stopping : (script.play outcome limit).state.isStopping = isStopping
  starts : (script.play outcome limit).starts = begins
  ends : (script.play outcome limit).ends = finishes

namespace Plays

variable {isStopping isStoppingAfter : Bool} {contents contentsAfter : List (List Metric)}
  {starts ends : List (Job (List Metric) × Nat)} {running : Job (List Metric) × Nat}

theorem nil (outcome : Job (List Metric) -> Outcome) (limit : Nat) :
    Plays outcome limit false [] [] [] [] where
  started := (Steady.start outcome limit).1.started
  ended := (Steady.start outcome limit).1.ended
  stopping := (Steady.start outcome limit).2
  starts := rfl
  ends := rfl

/-- One more event starts and ends sends at its time. -/
theorem concat (begun done : List (Job (List Metric)))
    (plays : Plays outcome limit isStopping contents starts ends script)
    (started : (Dispatch.State.step outcome (script.play outcome limit).state event).1.started =
      jobs contentsAfter)
    (grows : jobs contentsAfter = jobs contents ++ begun)
    (ended : (Dispatch.State.step outcome (script.play outcome limit).state event).1.ended =
      ends.map Prod.fst ++ done)
    (stopping : (Dispatch.State.step outcome
      (script.play outcome limit).state event).1.isStopping = isStoppingAfter)
    (time : Nat) :
    Plays outcome limit isStoppingAfter contentsAfter
      (starts ++ begun.map fun job => (job, time)) (ends ++ done.map fun job => (job, time))
      (script ++ [(time, event)]) := by
  have noted := Record.next_eq begun done time
    (started.trans (grows.trans (congrArg (· ++ begun) plays.started.symm)))
    (ended.trans (congrArg (· ++ done) plays.ended.symm))
  rw [← Script.play_concat] at noted
  constructor
  case started => rw [noted, started]
  case ended =>
    rw [noted, ended, List.map_append, List.map_map]
    simp [Function.comp_def]
  case stopping => rw [noted, stopping]
  case starts => rw [noted, plays.starts]
  case ends => rw [noted, plays.ends]

end Plays

/-- A script after which every batch that it submits has been taken by a worker. -/
structure Settles (outcome : Job (List Metric) -> Outcome) (limit : Nat) (isStopping : Bool)
    (contents : List (List Metric)) (begins finishes : List (Job (List Metric) × Nat))
    (script : Script) : Prop
    extends Plays outcome limit isStopping contents begins finishes script where
  steady : Steady outcome limit contents (finishes.map Prod.fst) (script.play outcome limit).state

namespace Settles

variable {isStopping : Bool} {contents : List (List Metric)}
  {starts ends : List (Job (List Metric) × Nat)} {running : Job (List Metric) × Nat}

theorem nil (outcome : Job (List Metric) -> Outcome) (limit : Nat) :
    Settles outcome limit false [] [] [] [] where
  toPlays := Plays.nil outcome limit
  steady := (Steady.start outcome limit).1

/-- A send that is going on may end. -/
theorem finish
    (settles : Settles outcome limit isStopping contents starts ends script)
    (robust : Robust outcome)
    (started : running.1 ∈ jobs contents)
    (unfinished : running.1 ∉ ends.map Prod.fst) :
    ∃ index, Settles outcome limit isStopping contents starts (ends ++ [running])
      (script ++ [(running.2, .finish index)]) := by
  obtain ⟨index, steady, stopping⟩ := settles.steady.finish robust started unfinished
  have plays := settles.toPlays.concat [] [running.1] steady.started (List.append_nil _).symm
    steady.ended (stopping.trans settles.stopping) running.2
  rw [List.map_nil, List.append_nil] at plays
  refine ⟨index, plays, ?_⟩
  rw [Script.play_concat, List.map_append]
  exact steady

/-- A batch that is submitted while a worker is free is taken at once. -/
theorem submit
    (settles : Settles outcome limit false contents starts ends script)
    (robust : Robust outcome)
    (room : contents.length < ends.length + max limit 1)
    (batch : List Metric)
    (time : Nat) :
    Settles outcome limit false (contents ++ [batch])
      (starts ++ [(⟨contents.length, batch⟩, time)]) ends (script ++ [(time, .submit batch)]) := by
  have room : contents.length < (ends.map Prod.fst).length + max limit 1 := by
    rwa [List.length_map]
  obtain ⟨steady, proceeding⟩ := settles.steady.submit robust settles.stopping room batch
  have plays := settles.toPlays.concat [⟨contents.length, batch⟩] [] steady.started
    (Dispatch.jobs_concat contents batch) (steady.ended.trans (List.append_nil _).symm)
    proceeding time
  rw [List.map_nil, List.append_nil] at plays
  refine ⟨plays, ?_⟩
  rw [Script.play_concat]
  exact steady

/-- A batch that is submitted while every worker is busy is taken when the next send ends. -/
theorem submit_of_full
    (settles : Settles outcome limit false contents starts ends script)
    (robust : Robust outcome)
    (full : contents.length = ends.length + max limit 1)
    (started : running.1 ∈ jobs contents)
    (unfinished : running.1 ∉ ends.map Prod.fst)
    (batch : List Metric)
    (time : Nat) :
    ∃ index, Settles outcome limit false (contents ++ [batch])
      (starts ++ [(⟨contents.length, batch⟩, running.2)]) (ends ++ [running])
      (script ++ [(time, .submit batch)] ++ [(running.2, .finish index)]) := by
  have full : contents.length = (ends.map Prod.fst).length + max limit 1 := by
    rwa [List.length_map]
  obtain ⟨stalls, proceeding⟩ :=
    settles.steady.submit_of_full robust settles.stopping full batch
  have played : (Script.play outcome limit (script ++ [(time, .submit batch)])).state =
      (Dispatch.State.step outcome (script.play outcome limit).state (.submit batch)).1 :=
    congrArg Record.state (Script.play_concat outcome limit script _)
  have waits := settles.toPlays.concat [] [] stalls.started (List.append_nil _).symm
    (stalls.ended.trans (List.append_nil _).symm) proceeding time
  rw [List.map_nil, List.append_nil, List.append_nil] at waits
  obtain ⟨index, steady, stopping⟩ := stalls.finish robust started unfinished
  rw [← played] at steady stopping proceeding
  have plays := waits.concat [⟨contents.length, batch⟩] [running.1] steady.started
    (Dispatch.jobs_concat contents batch) steady.ended (stopping.trans proceeding) running.2
  refine ⟨index, plays, ?_⟩
  rw [Script.play_concat, List.map_append]
  exact steady

/-- Once nothing more is submitted, the dispatcher may be shut down. -/
theorem shutdown
    (settles : Settles outcome limit false contents starts ends script)
    (time : Nat) :
    Settles outcome limit true contents starts ends (script ++ [(time, .shutdown)]) := by
  obtain ⟨steady, stopping⟩ := settles.steady.shutdown settles.stopping
  have plays := settles.toPlays.concat [] [] steady.started (List.append_nil _).symm
    (steady.ended.trans (List.append_nil _).symm) stopping time
  rw [List.map_nil, List.append_nil, List.append_nil] at plays
  refine ⟨plays, ?_⟩
  rw [Script.play_concat]
  exact steady

/-- A shutdown is complete once every send has ended. -/
theorem isShutDown_iff
    (settles : Settles outcome limit true contents starts ends script) :
    (script.play outcome limit).state.isShutDown = true ↔ contents.length = ends.length := by
  rw [settles.steady.isShutDown_iff settles.stopping, List.length_map]

/-- No batch has more than one number. -/
theorem jobs_nodup
    (settles : Settles outcome limit isStopping contents starts ends script) :
    (jobs contents).Nodup := by
  rw [← settles.started]
  exact settles.steady.sound.started_numbers_nodup.of_map Dispatch.Job.number

end Settles
end Agent
end Telemetry
