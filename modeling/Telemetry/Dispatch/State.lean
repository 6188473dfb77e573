/-!
# Workers that share a queue

Batches go through a queue with a single place to workers that send them.  The
workers take turns in receiving from the queue.  A batch that finds the place
taken waits for room, and the place is promised to waiting batches in the order
of their arrival.  Sends end when they are let through a gate, in the order in
which they came to it.
-/

namespace Telemetry
namespace Dispatch

/-- A submitted batch. -/
structure Job (batch : Type) where
  /-- The number of batches submitted before it. -/
  number : Nat
  /-- What is to be sent. -/
  content : batch
deriving DecidableEq

/-- How a send ends. -/
inductive Outcome where
  /-- The batch was delivered. -/
  | sent
  /-- The batch was not delivered. -/
  | failed
  /-- The worker broke down. -/
  | crashed
deriving DecidableEq

/-- What has become of a submission. -/
inductive Fate where
  /-- No worker has taken the batch yet. -/
  | waiting
  /-- A worker has taken the batch. -/
  | accepted
  /-- The producer waits no longer. -/
  | givenUp
  /-- No worker is left. -/
  | refused
deriving DecidableEq

/-- The wording of a refused submission. -/
def Fate.refusal : String := "dispatcher is shut down"

/-- What a worker is doing. -/
inductive Worker (batch : Type) where
  /-- It is free and has not yet asked for its turn to receive. -/
  | idle
  /-- It waits for its turn to receive. -/
  | queueing
  /-- It has the turn and waits for a batch. -/
  | receiving
  /-- It sends a batch. -/
  | sending (job : Job batch)
  /-- It has stopped or broken down. -/
  | gone
deriving DecidableEq

/-- The place of the queue. -/
inductive Place (batch : Type) where
  /-- It is empty. -/
  | free
  /-- It is empty, and the batch that waited longest may enter. -/
  | promised (job : Job batch)
  /-- It holds a batch. -/
  | holds (job : Job batch)
deriving DecidableEq

/-- What can go on when it gets the chance. -/
inductive Task (batch : Type) where
  /-- A worker. -/
  | worker (index : Nat)
  /-- A batch that has not entered the queue. -/
  | entry (job : Job batch)
deriving DecidableEq

/-- The workers and their queue. -/
structure State (batch : Type) where
  /-- The workers. -/
  workers : List (Worker batch)
  /-- What can go on, in the order in which it will. -/
  ready : List (Task batch) := []
  /-- The worker that has the turn to receive. -/
  receiver : Option Nat := none
  /-- The workers that wait for the turn, in their order. -/
  turns : List Nat := []
  /-- The place of the queue. -/
  place : Place batch := .free
  /-- The batches that wait for room, in their order. -/
  pending : List (Job batch) := []
  /-- The workers whose sends wait at the gate, in their order. -/
  gate : List Nat := []
  /-- How many further sends the gate lets through. -/
  permits : Nat := 0
  /-- What has become of each submission. -/
  fates : List Fate := []
  /-- The batches that entered the queue, in their order. -/
  entered : List (Job batch) := []
  /-- The batches whose sends were started, in their order. -/
  started : List (Job batch) := []
  /-- The batches that were delivered, in their order. -/
  sent : List (Job batch) := []
  /-- The batches whose sends have ended in any way, in their order. -/
  ended : List (Job batch) := []
  /-- Whether the queue takes no further batch. -/
  isStopping : Bool := false

namespace State

/-- Whether no worker is left. -/
def isDeserted (state : State batch) : Bool :=
  state.workers.all fun worker => worker matches .gone

/-- The batches that are being sent. -/
def inProgress (state : State batch) : List (Job batch) :=
  state.workers.filterMap fun worker =>
    match worker with
    | .sending job => some job
    | _ => none

/-- Whether the shutdown has been asked for and is complete. -/
def isShutDown (state : State batch) : Bool :=
  state.isStopping && state.isDeserted

/-- Whether a submission is still waiting. -/
def isAwaited (state : State batch) (number : Nat) : Bool :=
  state.fates[number]? == some .waiting

end State
end Dispatch
end Telemetry
