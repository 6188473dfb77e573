import Telemetry.Service.Interleaving

/-!
# The steps of updates that go on at the same time

Each step calls one more update or takes one update further.  What holds at the
start and is kept by every step holds after any run.
-/

namespace Telemetry
namespace Service
namespace Interleaving

/-- The steps that updates of a service can take. -/
inductive Step (service : Service) (system : Interleaving) : Interleaving -> Prop
  /-- An update is called. -/
  | called (metrics : List Metric) : Step service system (system.call service metrics)
  /-- An update applies its next metric. -/
  | applied (index : Nat) (call : Call) (metric : Metric) (rest : List Metric) (update : Update) :
      system.calls[index]? = some call ->
      call.phase = .applying metric rest ->
      metric.toNamedUpdate = .ok update ->
      Step service system
        ({ system with store := system.store.apply update }.move index
          { call with applied := call.applied ++ [update] } (.ofMetrics service rest))
  /-- The next metric of an update is invalid. -/
  | refused (index : Nat) (call : Call) (metric : Metric) (rest : List Metric)
      (error : MetricError) :
      system.calls[index]? = some call ->
      call.phase = .applying metric rest ->
      metric.toNamedUpdate = .error error ->
      Step service system (system.move index call (.afterSync service (.error (.invalid error))))
  /-- An update copies the store for the repository. -/
  | copied (index : Nat) (call : Call) :
      system.calls[index]? = some call ->
      call.phase = .copying ->
      Step service system
        ({ system with copied := system.copied ++ [index] }.move index call
          (.syncing system.store.metrics))
  /-- The repository takes the copy of an update. -/
  | synced (index : Nat) (call : Call) (copy : List Metric) :
      system.calls[index]? = some call ->
      call.phase = .syncing copy ->
      Step service system
        ({ system with
            synced := system.synced ++ [(index, copy)]
            replica := some copy }.move index call (.afterSync service (.ok ())))
  /-- The repository fails to take the copy of an update. -/
  | unsynced (index : Nat) (call : Call) (copy : List Metric) (error : RepositoryError) :
      system.calls[index]? = some call ->
      call.phase = .syncing copy ->
      Step service system
        ({ system with synced := system.synced ++ [(index, copy)] }.move index call
          (.afterSync service (.error (.unsaved error))))
  /-- An update takes the lock on the snapshot. -/
  | locked (index : Nat) (call : Call) (result : Except UpdateError Unit) :
      system.calls[index]? = some call ->
      call.phase = .locking result ->
      system.lock = none ->
      Step service system
        ({ system with lock := some index }.move index call (.reading result))
  /-- An update reads the store for the snapshot. -/
  | read (index : Nat) (call : Call) (result : Except UpdateError Unit) :
      system.calls[index]? = some call ->
      call.phase = .reading result ->
      Step service system
        (system.move index call (.replacing (Snapshot.content system.store.metrics) result))
  /-- An update replaces the snapshot. -/
  | replaced (index : Nat) (call : Call) (content : Bytes) (result : Except UpdateError Unit) :
      system.calls[index]? = some call ->
      call.phase = .replacing content result ->
      Step service system
        ({ system with snapshot := some content }.move index call (.releasing result))
  /-- An update cannot write the snapshot. -/
  | unsaved (index : Nat) (call : Call) (result : Except UpdateError Unit) :
      system.calls[index]? = some call ->
      (call.phase = .reading result ∨ ∃ content, call.phase = .replacing content result) ->
      Step service system
        ({ system with unsaved := system.unsaved + 1 }.move index call (.releasing result))
  /-- An update lets the lock go and returns. -/
  | released (index : Nat) (call : Call) (result : Except UpdateError Unit) :
      system.calls[index]? = some call ->
      call.phase = .releasing result ->
      Step service system ({ system with lock := none }.move index call (.done result))

variable {service : Service} {system next : Interleaving}

/-- The next step of an update is one of the steps. -/
theorem step_of_stepOf?
    {index : Nat} {call : Call}
    (found : system.calls[index]? = some call)
    (steps : stepOf? service system index call = some next) :
    Step service system next := by
  unfold stepOf? at steps
  split at steps
  case h_1 metric rest phase =>
      cases steps
      unfold applyNext
      split
      next error refused => exact .refused index call metric rest error found phase refused
      next update isUpdate => exact .applied index call metric rest update found phase isUpdate
  case h_2 phase =>
      cases steps
      exact .copied index call found phase
  case h_3 copy phase =>
      cases steps
      unfold endSync
      split
      next => exact .synced index call copy found phase
      next error _ => exact .unsynced index call copy error found phase
  case h_4 result phase =>
      split at steps
      next free =>
        cases steps
        exact .locked index call result found phase free
      next => cases steps
  case h_5 result phase =>
      cases steps
      exact .read index call result found phase
  case h_6 content result phase =>
      cases steps
      exact .replaced index call content result found phase
  case h_7 result phase =>
      cases steps
      exact .released index call result found phase
  case h_8 => cases steps

/-- Every event that can happen is one of the steps. -/
theorem step_of_step?
    {event : Event}
    (steps : step? service system event = some next) :
    Step service system next := by
  cases event with
  | call metrics =>
      cases steps
      exact .called metrics
  | step index =>
      obtain ⟨call, found, steps⟩ := Option.bind_eq_some_iff.mp steps
      exact step_of_stepOf? found steps
  | failSave index =>
      obtain ⟨call, found, fails⟩ := Option.bind_eq_some_iff.mp steps
      unfold failSaveOf? at fails
      split at fails
      next result phase =>
        cases fails
        exact .unsaved index call result found (Or.inl phase)
      next content result phase =>
        cases fails
        exact .unsaved index call result found (Or.inr ⟨content, phase⟩)
      next => cases fails

/-- What every step keeps is kept by a run. -/
theorem run_induction
    {motive : Interleaving -> Prop}
    (start : motive system)
    (step : ∀ {before after}, motive before -> Step service before after -> motive after)
    (events : List Event) :
    motive (run service system events) := by
  induction events generalizing system with
  | nil => exact start
  | cons event rest inductionHypothesis =>
      refine inductionHypothesis ?_
      change motive ((step? service system event).getD system)
      cases steps : step? service system event with
      | none => exact start
      | some next => exact step start (step_of_step? steps)

end Interleaving
end Service
end Telemetry
