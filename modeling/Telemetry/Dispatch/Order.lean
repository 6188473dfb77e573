import Telemetry.Dispatch.Run

/-!
# Steps of a dispatcher in any order

What is ready may go on in any order, and events may happen between any two
turns.  A run that lets everything go on after each event, in the order in
which it became ready, takes its steps in one of these orders.
-/

namespace Telemetry
namespace Dispatch

instance [DecidableEq batch] : LawfulBEq (Task batch) := inferInstance

/-- One step of a dispatcher. -/
inductive Action (batch : Type) where
  /-- Something that is ready gets its chance. -/
  | turn (task : Task batch)
  /-- Something happens to the dispatcher. -/
  | event (event : Event batch)

namespace State

/-- A dispatcher before its workers have got their first chance. -/
def fresh (limit : Nat) : State batch where
  workers := List.replicate (max limit 1) .idle
  ready := (List.range (max limit 1)).map .worker

/-- The state after a step; a step that cannot be taken changes nothing. -/
def act [DecidableEq batch] (outcome : Job batch -> Outcome) (state : State batch) :
    Action batch -> State batch
  | .turn task =>
      if task ∈ state.ready then turn outcome { state with ready := state.ready.erase task } task
      else state
  | .event event =>
      match state.apply event with
      | .ok changed => changed
      | .error _ => state

/-- The state after steps in order. -/
def follow [DecidableEq batch] (outcome : Job batch -> Outcome) (state : State batch)
    (order : List (Action batch)) : State batch :=
  order.foldl (act outcome) state

/-- What a step submits. -/
def submission (state : State batch) : Action batch -> List batch
  | .event (.submit content) => if state.isStopping then [] else [content]
  | _ => []

/-- What steps submit, in their order. -/
def submissions [DecidableEq batch] (outcome : Job batch -> Outcome) (state : State batch) :
    List (Action batch) -> List batch
  | [] => []
  | action :: rest =>
      state.submission action ++ submissions outcome (act outcome state action) rest

@[simp] theorem follow_nil [DecidableEq batch] (outcome : Job batch -> Outcome)
    (state : State batch) :
    follow outcome state [] = state := rfl

@[simp] theorem follow_cons [DecidableEq batch] (outcome : Job batch -> Outcome)
    (state : State batch) (action : Action batch) (rest : List (Action batch)) :
    follow outcome state (action :: rest) = follow outcome (act outcome state action) rest := rfl

theorem follow_append [DecidableEq batch] (outcome : Job batch -> Outcome)
    (state : State batch) (early late : List (Action batch)) :
    follow outcome state (early ++ late) = follow outcome (follow outcome state early) late :=
  List.foldl_append

end State
end Dispatch
end Telemetry
