import Telemetry.Agent.Collector

/-!
# Runs of an agent

Collectors change the store of an agent, and at fixed intervals the store is
submitted as a batch, unless it is empty.  A worker takes the batch as soon as
one is free; until then the agent makes no further report, and the reports that
it missed follow at once.  When the agent is stopped it makes a last report,
waits until all sends have ended, and closes its sender.
-/

namespace Telemetry
namespace Agent

/-- A collector that is polled until it is stopped. -/
structure Sampler where
  /-- The collector. -/
  collector : Collector
  /-- Whether the stop goes first when a poll is due together with it. -/
  stopsFirst : Bool

/--
How many polls a sampler makes that is stopped at an instant.  If a report was
made at that instant, the polls that came before the report have been made in
any case.
-/
def Sampler.pollsAtStop (sampler : Sampler) (instant wait : Nat) (hasReported : Bool) : Nat :=
  if !sampler.stopsFirst then sampler.collector.pollsUntil instant
  else if hasReported then sampler.collector.pollsBefore instant wait
  else sampler.collector.pollsUntil (instant - 1)

/-- What an agent is to do, and what it meets with. -/
structure Plan where
  /-- The collectors. -/
  collectors : List Collector
  /-- The time between two reports. -/
  reportInterval : Nat
  /-- There is time between two reports. -/
  reportInterval_pos : 0 < reportInterval
  /-- How many sends may go on at once; at least one may. -/
  rateLimit : Nat
  /-- When the agent is stopped. -/
  stopAt : Nat
  /-- How long each send takes; sends are numbered from zero. -/
  sendSpan : Nat -> Nat
  /--
  Whether a report goes first, each time that one is due together with the
  stop; the stop goes first when the list is used up.
  -/
  overtime : List Bool := []
  /--
  Whether the stop of a collector goes first when a poll is due together with
  it; collectors are numbered from zero.
  -/
  stopsFirst : Nat -> Bool := fun _ => false
  /-- The store at the start. -/
  seed : Store := {}

/-- A batch that was submitted and sent. -/
structure Send where
  /-- When the batch was taken from the store. -/
  taken : Nat
  /-- When a worker started to send it. -/
  start : Nat
  /-- When the send ended. -/
  finish : Nat
  /-- The batch. -/
  batch : List Metric

/-- What an agent did. -/
structure Run where
  /-- The sends of the reports, in their order. -/
  reports : List Send
  /-- When the agent left off reporting. -/
  leftAt : Nat
  /-- The send of the last report, unless the store was empty. -/
  final : Option Send
  /-- When the sender was closed. -/
  closedAt : Nat

namespace Run

/-- All sends in their order. -/
def sends (run : Run) : List Send :=
  run.reports ++ run.final.toList

/-- Whether a report was made when the agent left off reporting. -/
def hasReported (run : Run) : Bool :=
  run.reports.any fun send => send.taken == run.leftAt

end Run

namespace Plan

/-- The collectors, each with what comes first when it is stopped. -/
def samplers (plan : Plan) : List Sampler :=
  plan.collectors.mapIdx fun number collector => ⟨collector, plan.stopsFirst number⟩

/-- Polls of all collectors, by how many each sampler makes. -/
def polls (plan : Plan) (counts : Sampler -> Nat) : List Poll :=
  plan.samplers.flatMap fun sampler => sampler.collector.firstPolls (counts sampler)

/-- The store when a report is due at an instant. -/
def storeAt (plan : Plan) (instant : Nat) : Store :=
  pollAll plan.seed
    (plan.polls fun sampler => sampler.collector.pollsBefore instant plan.reportInterval)

/-- The store when the collectors have been stopped at an instant. -/
def storeAfter (plan : Plan) (instant : Nat) (hasReported : Bool) : Store :=
  pollAll plan.seed
    (plan.polls fun sampler => sampler.pollsAtStop instant plan.reportInterval hasReported)

end Plan

/-- An agent between two reports. -/
structure State where
  /-- The time at which it goes on. -/
  now : Nat := 0
  /-- When the next report is due. -/
  due : Nat
  /-- When each worker is free. -/
  free : List Nat
  /-- The sends so far, the last in front. -/
  sends : List Send := []

namespace State

/-- The agent at its start. -/
def start (plan : Plan) : State where
  due := plan.reportInterval
  free := List.replicate (max plan.rateLimit 1) 0

/-- When the first worker is free. -/
def firstFree (state : State) : Nat :=
  state.free.min?.getD 0

/-- Submits a batch and waits until a worker takes it. -/
def submit (plan : Plan) (state : State) (instant : Nat) (batch : List Metric) : State :=
  let start := max instant state.firstFree
  let finish := start + plan.sendSpan state.sends.length
  { state with
    now := start
    free := finish :: state.free.erase state.firstFree
    sends := ⟨instant, start, finish, batch⟩ :: state.sends }

/-- Submits the content of a store, unless it is empty. -/
def submitStore (plan : Plan) (state : State) (instant : Nat) (store : Store) : State :=
  if store.isEmpty then { state with now := instant }
  else state.submit plan instant store.metrics

/-- Makes the report that is due. -/
def report (plan : Plan) (state : State) (instant : Nat) : State :=
  { state.submitStore plan instant (plan.storeAt instant) with
    due := state.due + plan.reportInterval }

/-- Making a report puts the next one off by the interval. -/
@[simp] theorem due_report (plan : Plan) (state : State) (instant : Nat) :
    (state.report plan instant).due = state.due + plan.reportInterval :=
  rfl

/-- Makes reports until the agent is stopped, and tells when it left off. -/
def reportUntilStop (plan : Plan) (overtime : List Bool) (state : State) : State × Nat :=
  let instant := max state.now state.due
  let stop := max state.now plan.stopAt
  if instant < stop then reportUntilStop plan overtime (state.report plan instant)
  else
    match overtime with
    | true :: rest =>
        if instant = stop then reportUntilStop plan rest (state.report plan instant)
        else (state, stop)
    | _ => (state, stop)
termination_by overtime.length + (plan.stopAt - state.due)
decreasing_by
  · have positive := plan.reportInterval_pos
    simp only [due_report]
    omega
  · have positive := plan.reportInterval_pos
    simp only [due_report, List.length_cons]
    omega

/-- When all sends have ended. -/
def lastFree (state : State) : Nat :=
  state.free.foldl max state.now

end State

/-- Runs an agent until its sender is closed. -/
def Plan.run (plan : Plan) : Run :=
  let (reported, leftAt) := (State.start plan).reportUntilStop plan plan.overtime
  let reports := reported.sends.reverse
  let hasReported := reports.any fun send => send.taken == leftAt
  let ended := reported.submitStore plan leftAt (plan.storeAfter leftAt hasReported)
  { reports
    leftAt
    final := if reported.sends.length < ended.sends.length then ended.sends.head? else none
    closedAt := ended.lastFree }

end Agent
end Telemetry
