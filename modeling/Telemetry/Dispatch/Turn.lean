import Telemetry.Dispatch.State

/-!
# What workers and batches do in one go

A worker that gets the chance ends its send, asks for its turn to receive,
takes a batch when there is one and starts to send it.  It stops where it has
to wait, and the event that it waits for makes it ready again.
-/

namespace Telemetry
namespace Dispatch
namespace State

/-- Makes something ready, unless it is so already. -/
def wake [DecidableEq batch] (state : State batch) (task : Task batch) : State batch :=
  if task ∈ state.ready then state else { state with ready := state.ready ++ [task] }

/-- Changes what a worker is doing. -/
def setWorker (state : State batch) (index : Nat) (worker : Worker batch) : State batch :=
  { state with workers := state.workers.set index worker }

/-- Settles what has become of a submission that is still waiting. -/
def settleFate (state : State batch) (number : Nat) (fate : Fate) : State batch :=
  if state.isAwaited number then { state with fates := state.fates.set number fate } else state

/-- Passes the turn to receive on to the worker that waited longest. -/
def passTurn [DecidableEq batch] (state : State batch) : State batch :=
  match state.turns with
  | [] => { state with receiver := none }
  | next :: rest => { state with receiver := some next, turns := rest }.wake (.worker next)

/-- Empties the place of the queue and promises it to the batch that waited longest. -/
def makeRoom [DecidableEq batch] (state : State batch) : State batch :=
  match state.pending with
  | [] => { state with place := .free }
  | next :: rest => { state with place := .promised next, pending := rest }.wake (.entry next)

/-- Makes the worker ready that waits for a batch, if one does. -/
def wakeReceiver [DecidableEq batch] (state : State batch) : State batch :=
  match state.receiver with
  | none => state
  | some index =>
      if state.workers[index]? = some .receiving then state.wake (.worker index) else state

/-- Puts a batch into the place of the queue. -/
def enter [DecidableEq batch] (state : State batch) (job : Job batch) : State batch :=
  { state with place := .holds job, entered := state.entered ++ [job] }.wakeReceiver

/-- What a batch does that has not entered the queue. -/
def entryTurn [DecidableEq batch] (state : State batch) (job : Job batch) : State batch :=
  if !state.isAwaited job.number then state
  else if state.isDeserted then state.settleFate job.number .refused
  else
    match state.place with
    | .free => state.enter job
    | .promised first =>
        if first = job then state.enter job
        else { state with pending := state.pending ++ [job] }
    | .holds _ => { state with pending := state.pending ++ [job] }

/-- Refuses all that still waits when no worker is left. -/
def closeIfDeserted (state : State batch) : State batch :=
  if state.isDeserted then
    { state with
      place := .free
      pending := []
      fates := state.fates.map fun fate => if fate = .waiting then .refused else fate }
  else state

/-- Ends the send of a worker, which is free again or gone. -/
def endSend (outcome : Job batch -> Outcome) (state : State batch) (index : Nat)
    (job : Job batch) : State batch :=
  let done := { state with ended := state.ended ++ [job] }
  match outcome job with
  | .sent => { done with sent := done.sent ++ [job] }.setWorker index .idle
  | .failed => done.setWorker index .idle
  | .crashed => (done.setWorker index .gone).closeIfDeserted

/-- Starts a send, which ends at once when the gate lets it through. -/
def startSend (outcome : Job batch -> Outcome) (state : State batch) (index : Nat)
    (job : Job batch) : State batch :=
  let begun := { state with started := state.started ++ [job] }.setWorker index (.sending job)
  if begun.gate = [] ∧ 0 < begun.permits then
    endSend outcome { begun with permits := begun.permits - 1 } index job
  else { begun with gate := begun.gate ++ [index] }

/-- What a worker does that has the turn to receive. -/
def receive [DecidableEq batch] (outcome : Job batch -> Outcome) (state : State batch)
    (index : Nat) : State batch :=
  match state.place with
  | .holds job =>
      startSend outcome (state.makeRoom.passTurn.settleFate job.number .accepted) index job
  | _ =>
      if state.isStopping then (state.setWorker index .gone).passTurn
      else state.setWorker index .receiving

/-- What a free worker does: it receives, or waits for its turn to. -/
def seek [DecidableEq batch] (outcome : Job batch -> Outcome) (state : State batch)
    (index : Nat) : State batch :=
  match state.receiver with
  | none => receive outcome { state with receiver := some index } index
  | some _ => { state with turns := state.turns ++ [index] }.setWorker index .queueing

/-- Lets a worker seek if it is free. -/
def seekIfIdle [DecidableEq batch] (outcome : Job batch -> Outcome) (state : State batch)
    (index : Nat) : State batch :=
  if state.workers[index]? = some .idle then seek outcome state index else state

/-- What a worker does up to where it waits, or is free after a send that ended at once. -/
def workerStep [DecidableEq batch] (outcome : Job batch -> Outcome) (state : State batch)
    (index : Nat) : State batch :=
  match state.workers[index]? with
  | some .idle => seek outcome state index
  | some .queueing => if state.receiver = some index then receive outcome state index else state
  | some .receiving => receive outcome state index
  | some (.sending job) =>
      if index ∈ state.gate then state
      else seekIfIdle outcome (endSend outcome state index job) index
  | _ => state

/--
What a worker does in one go.  It takes at most one batch, so it finds none
when it seeks for the last time.
-/
def workerTurn [DecidableEq batch] (outcome : Job batch -> Outcome) (state : State batch)
    (index : Nat) : State batch :=
  seekIfIdle outcome (workerStep outcome state index) index

/-- What a task does when it gets the chance. -/
def turn [DecidableEq batch] (outcome : Job batch -> Outcome) (state : State batch) :
    Task batch -> State batch
  | .worker index => workerTurn outcome state index
  | .entry job => state.entryTurn job

end State
end Dispatch
end Telemetry
