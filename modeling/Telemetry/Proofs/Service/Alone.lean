import Telemetry.Proofs.Service.Update
import Telemetry.Service.Interleaving

/-!
# An update that goes on alone

While one update takes its steps and no other does, it comes to the result of
an update that is made at once, with the same store and the same copies for the
repository, and leaves that store in the snapshot.
-/

namespace Telemetry
namespace Service
/-- How an update goes on once it has applied what it could of its metrics. -/
def Phase.afterApplying (service : Service) : Except MetricError Unit -> Phase
  | .ok () => .afterMetrics service
  | .error error => .afterSync service (.error (.invalid error))

namespace Interleaving

variable {service : Service} {system after : Interleaving} {state : State} {index : Nat}
  {call : Call} {metrics : List Metric} {result : Except UpdateError Unit}
  {snapshot : Option Bytes}

/-! ## Steps of one update -/

/-- One update takes steps, as many as are needed, from one system to another. -/
def Advances (service : Service) (index : Nat) (system after : Interleaving) : Prop :=
  ∃ steps, run service system (List.replicate steps (.step index)) = after

theorem Advances.refl (service : Service) (index : Nat) (system : Interleaving) :
    Advances service index system system :=
  ⟨0, rfl⟩

theorem Advances.step
    {next : Interleaving}
    (found : system.calls[index]? = some call)
    (steps : stepOf? service system index call = some next)
    (advances : Advances service index next after) :
    Advances service index system after := by
  obtain ⟨count, ran⟩ := advances
  refine ⟨count + 1, ?_⟩
  have first : step? service system (.step index) = some next := by
    rw [step?, found]
    exact steps
  rw [List.replicate_succ]
  change run service ((step? service system (.step index)).getD system) _ = after
  rw [first]
  exact ran

theorem Advances.trans
    {next : Interleaving}
    (advances : Advances service index system next)
    (later : Advances service index next after) :
    Advances service index system after := by
  obtain ⟨first, rfl⟩ := advances
  obtain ⟨second, rfl⟩ := later
  refine ⟨first + second, ?_⟩
  rw [List.replicate_add]
  exact List.foldl_append

/-- A system agrees with a state of the service and has a snapshot that no update is about to
replace, and one of its updates is at a phase. -/
structure IsAt (system : Interleaving) (index : Nat) (phase : Phase) (state : State)
    (snapshot : Option Bytes) : Prop where
  /-- The update is at the phase. -/
  found : ∃ call, system.calls[index]? = some call ∧ call.phase = phase
  /-- The store is that of the state. -/
  store : system.store = state.store
  /-- The repository was given what the state says. -/
  synced : system.synced.map Prod.snd = state.synced
  /-- No update has the lock on the snapshot. -/
  free : system.lock = none
  /-- The content of the snapshot. -/
  snapshot : system.snapshot = snapshot

theorem getElem?_move
    (found : system.calls[index]? = some call)
    (moved : Call)
    (phase : Phase) :
    (system.move index moved phase).calls[index]? = some { moved with phase } := by
  obtain ⟨inside, -⟩ := List.getElem?_eq_some_iff.mp found
  exact List.getElem?_set_self inside

/-! ## From phase to phase -/

/-- An update applies its metrics up to the first one that is invalid. -/
theorem IsAt.apply (isAt : system.IsAt index (.ofMetrics service metrics) state snapshot) :
    ∃ after, Advances service index system after ∧
      after.IsAt index (.afterApplying service (applyMetrics state.store metrics).2)
        { state with store := (applyMetrics state.store metrics).1 } snapshot := by
  induction metrics generalizing system state with
  | nil => exact ⟨system, .refl service index system, isAt⟩
  | cons metric rest inductionHypothesis =>
      obtain ⟨call, found, phase⟩ := isAt.found
      have steps : stepOf? service system index call =
          some (applyNext service system index call metric rest) := by
        rw [stepOf?, phase]
        rfl
      cases named : metric.toNamedUpdate with
      | error error =>
          refine ⟨_, .step found steps (.refl service index _), ?_⟩
          rw [applyMetrics, applyNext, named]
          exact ⟨⟨_, getElem?_move found call _, rfl⟩, isAt.store, isAt.synced, isAt.free,
            isAt.snapshot⟩
      | ok update =>
          have next : (applyNext service system index call metric rest).IsAt index
              (.ofMetrics service rest) { state with store := state.store.apply update }
              snapshot := by
            rw [applyNext, named]
            exact ⟨⟨_, getElem?_move found _ _, rfl⟩, congrArg (Store.apply · update) isAt.store,
              isAt.synced, isAt.free, isAt.snapshot⟩
          obtain ⟨after, advances, there⟩ := inductionHypothesis next
          refine ⟨after, .step found steps advances, ?_⟩
          rw [applyMetrics, named]
          exact there

/-- An update gives the store to the repository, when there is one. -/
theorem IsAt.sync (isAt : system.IsAt index (.afterMetrics service) state snapshot) :
    ∃ after, Advances service index system after ∧
      after.IsAt index (.afterSync service ((service.sync state).2.mapError .unsaved))
        (service.sync state).1 snapshot := by
  cases shared : service.repository with
  | none =>
      have phase : Phase.afterMetrics service = .afterSync service (.ok ()) := by
        rw [Phase.afterMetrics, shared]
      rw [phase] at isAt
      refine ⟨system, .refl service index system, ?_⟩
      rw [Service.sync, shared]
      exact isAt
  | some repository =>
      obtain ⟨call, found, phase⟩ := isAt.found
      rw [Phase.afterMetrics, shared] at phase
      let copying := { system with copied := system.copied ++ [index] }.move index call
        (.syncing system.store.metrics)
      have copies : stepOf? service system index call = some copying := by
        rw [stepOf?, phase]
      have waiting := getElem?_move found call (.syncing system.store.metrics)
      have length : system.synced.length = state.synced.length := by
        rw [← isAt.synced, List.length_map]
      have given : (system.synced ++ [(index, system.store.metrics)]).map Prod.snd =
          state.synced ++ [state.store.metrics] := by
        rw [List.map_append, isAt.synced, isAt.store]
        rfl
      refine ⟨_, .step found copies (.step waiting rfl (.refl service index _)), ?_⟩
      cases answer : repository.sync state.synced.length with
      | none =>
          have taken : service.repository.bind
              (fun repository => repository.sync copying.synced.length) = none := by
            rw [shared]
            exact (congrArg repository.sync length).trans answer
          rw [Service.sync, shared]
          simp only [answer, endSync, taken]
          exact ⟨⟨_, getElem?_move waiting _ _, rfl⟩, isAt.store, given, isAt.free, isAt.snapshot⟩
      | some error =>
          have refused : service.repository.bind
              (fun repository => repository.sync copying.synced.length) = some error := by
            rw [shared]
            exact (congrArg repository.sync length).trans answer
          rw [Service.sync, shared]
          simp only [answer, endSync, refused]
          exact ⟨⟨_, getElem?_move waiting _ _, rfl⟩, isAt.store, given, isAt.free, isAt.snapshot⟩

/-- The snapshot after an update, which is written if there is one to write. -/
def snapshotAfter (service : Service) (store : Store) (snapshot : Option Bytes) : Option Bytes :=
  match service.snapshot with
  | none => snapshot
  | some _ => some (Snapshot.content store.metrics)

/-- An update takes the lock, writes the snapshot and lets the lock go. -/
theorem IsAt.save (isAt : system.IsAt index (.afterSync service result) state snapshot) :
    ∃ after, Advances service index system after ∧
      after.IsAt index (.done result) state (snapshotAfter service state.store snapshot) := by
  cases place : service.snapshot with
  | none =>
      rw [Phase.afterSync, place] at isAt
      refine ⟨system, .refl service index system, ?_⟩
      rw [snapshotAfter, place]
      exact isAt
  | some path =>
      obtain ⟨call, found, phase⟩ := isAt.found
      rw [Phase.afterSync, place] at phase
      let content := Snapshot.content system.store.metrics
      let reading := { system with lock := some index }.move index call (.reading result)
      have locks : stepOf? service system index call = some reading := by
        rw [stepOf?, phase]
        exact if_pos isAt.free
      have locked : reading.calls[index]? = some { call with phase := .reading result } :=
        getElem?_move found call _
      let replacing := reading.move index { call with phase := .reading result }
        (.replacing content result)
      have read : replacing.calls[index]? =
          some { call with phase := .replacing content result } :=
        getElem?_move locked _ _
      let releasing := { replacing with snapshot := some content }.move index
        { call with phase := .replacing content result } (.releasing result)
      have replaced : releasing.calls[index]? = some { call with phase := .releasing result } :=
        getElem?_move read _ _
      refine ⟨_, .step found locks (.step locked rfl (.step read rfl (.step replaced rfl
        (.refl service index _)))), ⟨_, getElem?_move replaced _ _, rfl⟩, isAt.store, isAt.synced,
        rfl, ?_⟩
      rw [snapshotAfter, place, ← isAt.store]
      rfl

/-! ## The whole update -/

/-- An update that is called while no other has the lock, and then takes its steps alone, returns
what an update returns that is made at once; it leaves the same store, has given the same copies to
the repository, and has left the store in the snapshot. -/
theorem update_alone
    (now : Int64)
    (metrics : List Metric)
    (address : String)
    (store : system.store = state.store)
    (synced : system.synced.map Prod.snd = state.synced)
    (free : system.lock = none) :
    let updated := service.update state now metrics address
    ∃ steps,
      (run service system (.call metrics :: List.replicate steps (.step system.calls.length))).IsAt
        system.calls.length (.done updated.2) updated.1
        (snapshotAfter service updated.1.store system.snapshot) := by
  let called := system.call service metrics
  have isAt : called.IsAt system.calls.length (.ofMetrics service metrics) state system.snapshot :=
    ⟨⟨_, List.getElem?_concat_length, rfl⟩, store, synced, free, rfl⟩
  obtain ⟨changed, changes, isChanged⟩ := isAt.apply
  have both : ∃ after, Advances service system.calls.length called after ∧
      after.IsAt system.calls.length
        (.afterSync service (service.applyAndSync state metrics).2)
        (service.applyAndSync state metrics).1 system.snapshot := by
    rw [applyAndSync]
    split
    next store error applied =>
      rw [applied] at isChanged
      exact ⟨changed, changes, isChanged⟩
    next store applied =>
      rw [applied] at isChanged
      obtain ⟨given, gives, isGiven⟩ := isChanged.sync
      refine ⟨given, changes.trans gives, ?_⟩
      split
      next error fails =>
        rw [fails] at isGiven
        exact isGiven
      next takes =>
        rw [takes] at isGiven
        exact isGiven
  obtain ⟨given, gives, isGiven⟩ := both
  obtain ⟨after, saves, isDone⟩ := isGiven.save
  obtain ⟨steps, ran⟩ := gives.trans saves
  obtain ⟨result, ⟨sameStore, sameSynced, -⟩, -⟩ :=
    service.update_after_applyAndSync state now metrics address
  refine ⟨steps, ?_⟩
  change (run service called (List.replicate steps (.step system.calls.length))).IsAt _ _ _ _
  rw [ran, result, sameStore]
  exact ⟨isDone.found, isDone.store.trans sameStore.symm, isDone.synced.trans sameSynced.symm,
    isDone.free, isDone.snapshot⟩

end Interleaving
end Service
end Telemetry
