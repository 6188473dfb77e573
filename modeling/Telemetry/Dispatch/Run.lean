import Telemetry.Dispatch.Turn

/-!
# Runs of a dispatcher

After each event everything goes on, in the order in which it became ready,
until all of it waits.
-/

namespace Telemetry
namespace Dispatch

/-- What happens to a dispatcher. -/
inductive Event (batch : Type) where
  /-- A producer submits a batch. -/
  | submit (content : batch)
  /-- The producer of a submission waits no longer. -/
  | giveUp (number : Nat)
  /-- So many sends are let through the gate, in their order. -/
  | release (permits : Nat)
  /-- The send of a worker is let through the gate, whatever its place. -/
  | finish (index : Nat)
  /-- The dispatcher is shut down. -/
  | shutdown

/-- Why an event could not happen. -/
inductive Objection where
  /-- The dispatcher was shut down before. -/
  | gone
  /-- A producer is still waiting. -/
  | busy
  /-- There is no such submission. -/
  | noSubmission
deriving DecidableEq

namespace State

/-- Lets everything go on for a number of turns. -/
def settleFor [DecidableEq batch] (outcome : Job batch -> Outcome) :
    Nat -> State batch -> State batch
  | 0, state => state
  | turns + 1, state =>
      match state.ready with
      | [] => state
      | task :: rest => settleFor outcome turns (turn outcome { state with ready := rest } task)

/--
A number of turns after which everything waits.  A batch is made ready when it
is submitted and when it is promised the place; it makes a worker ready when it
enters, and another one when it is taken; and a worker makes one ready when it
goes.
-/
def turnLimit (state : State batch) : Nat :=
  state.ready.length + 4 * state.fates.length + 2 * state.workers.length + 1

/-- Lets everything go on until all of it waits. -/
def settle [DecidableEq batch] (outcome : Job batch -> Outcome) (state : State batch) :
    State batch :=
  settleFor outcome state.turnLimit state

/-- A dispatcher that has started; it has at least one worker. -/
def start [DecidableEq batch] (outcome : Job batch -> Outcome) (limit : Nat) : State batch :=
  let count := max limit 1
  settle outcome
    { workers := List.replicate count .idle
      ready := (List.range count).map .worker }

/-- Lets sends through the gate; what is left over is for later sends. -/
def release [DecidableEq batch] (state : State batch) (permits : Nat) : State batch :=
  let passing := state.gate.take permits
  passing.foldl (fun state index => state.wake (.worker index))
    { state with
      gate := state.gate.drop permits
      permits := state.permits + (permits - passing.length) }

/-- Takes a batch back that waits for room; one that is in the queue stays there. -/
def withdraw [DecidableEq batch] (state : State batch) (number : Nat) : State batch :=
  let left := { state with pending := state.pending.filter fun job => job.number != number }
  match left.place with
  | .promised job => if job.number = number then left.makeRoom else left
  | _ => left

/-- What an event does before anything else goes on, or why it cannot happen. -/
def apply [DecidableEq batch] (state : State batch) :
    Event batch -> Except Objection (State batch)
  | .submit content =>
      if state.isStopping then .error .gone
      else
        let job := Job.mk state.fates.length content
        .ok ({ state with fates := state.fates ++ [Fate.waiting] }.wake (.entry job))
  | .giveUp number =>
      if state.fates.length ≤ number then .error .noSubmission
      else if state.isAwaited number then
        .ok ((state.settleFate number .givenUp).withdraw number)
      else .ok state
  | .release permits => .ok (state.release permits)
  | .finish index =>
      if index ∈ state.gate then
        .ok ({ state with gate := state.gate.filter (· != index) }.wake (.worker index))
      else .ok state
  | .shutdown =>
      if state.isStopping then .error .gone
      else if Fate.waiting ∈ state.fates then .error .busy
      else .ok { state with isStopping := true }.wakeReceiver

/-- The state once an event has had all its effects; an event that cannot happen has none. -/
def step [DecidableEq batch] (outcome : Job batch -> Outcome) (state : State batch)
    (event : Event batch) : State batch × Option Objection :=
  match state.apply event with
  | .ok changed => (settle outcome changed, none)
  | .error objection => (state, some objection)

/-- The state after a run of events. -/
def run [DecidableEq batch] (outcome : Job batch -> Outcome) (limit : Nat)
    (events : List (Event batch)) : State batch :=
  events.foldl (fun state event => (step outcome state event).1) (start outcome limit)

end State
end Dispatch
end Telemetry
