import Telemetry.Proofs.Entries
import Telemetry.Proofs.Service.Steps
import Telemetry.Proofs.Service.Update
import Telemetry.Proofs.Store.History

/-!
# What concurrent updates leave in the counters

Updates that go on at the same time each apply their own metrics, from the
first on and each once, whatever the others do meanwhile.  So at any moment a
counter is what it was at the start and all that has been added to it since.
-/

namespace Telemetry
namespace Service

/-! ## The account of one update -/

/-- What is left of the metrics of an update with a result: only an invalid metric leaves any. -/
def LeavesUnapplied (result : Except UpdateError Unit) (rest : List Metric) : Prop :=
  match result with
  | .error (.invalid error) => ∃ first others, rest = first :: others ∧ first.StopsWith error
  | _ => rest = []

/-- What is left of the metrics of an update, by where it is on its way. -/
def Phase.Leaves : Phase -> List Metric -> Prop
  | .applying metric rest, left => left = metric :: rest
  | .copying, left => left = []
  | .syncing _, left => left = []
  | .locking result, left => LeavesUnapplied result left
  | .reading result, left => LeavesUnapplied result left
  | .replacing _ result, left => LeavesUnapplied result left
  | .releasing result, left => LeavesUnapplied result left
  | .done result, left => LeavesUnapplied result left

theorem Phase.leaves_afterSync
    {result : Except UpdateError Unit} {rest : List Metric}
    (leaves : LeavesUnapplied result rest)
    (service : Service) :
    (Phase.afterSync service result).Leaves rest := by
  unfold afterSync
  split <;> exact leaves

theorem Phase.leaves_ofMetrics (service : Service) (rest : List Metric) :
    (Phase.ofMetrics service rest).Leaves rest := by
  cases rest with
  | nil =>
      have none : LeavesUnapplied (.ok ()) [] := rfl
      change (afterMetrics service).Leaves []
      unfold afterMetrics
      cases service.repository with
      | none => exact leaves_afterSync none service
      | some repository => rfl
  | cons metric others => rfl

/-- An update has applied the first of its metrics, which are all valid, and the rest is left. -/
structure Call.HasApplied (call : Call) (made rest : List Metric) : Prop where
  split : call.metrics = made ++ rest
  valid : ∀ metric ∈ made, metric.IsNamedUpdate
  applied : call.applied = Snapshot.validUpdates made

/-- An update has applied as many of its metrics as it should have by now. -/
def Call.IsAccounted (call : Call) : Prop :=
  ∃ made rest, call.HasApplied made rest ∧ call.phase.Leaves rest

/-- An update that goes on without applying anything stays accounted for. -/
theorem Call.IsAccounted.move
    {call : Call} {phase : Phase}
    (accounted : call.IsAccounted)
    (kept : ∀ {rest}, call.phase.Leaves rest -> phase.Leaves rest) :
    Call.IsAccounted { call with phase } := by
  obtain ⟨made, rest, hasApplied, leaves⟩ := accounted
  exact ⟨made, rest, ⟨hasApplied.split, hasApplied.valid, hasApplied.applied⟩, kept leaves⟩

/-- An update that applies its next metric stays accounted for. -/
theorem Call.IsAccounted.apply
    {call : Call} {metric : Metric} {rest : List Metric} {update : Update}
    (accounted : call.IsAccounted)
    (phase : call.phase = .applying metric rest)
    (isUpdate : metric.toNamedUpdate = .ok update)
    (service : Service) :
    Call.IsAccounted
      { call with applied := call.applied ++ [update], phase := .ofMetrics service rest } := by
  obtain ⟨made, left, ⟨split, valid, applied⟩, leaves⟩ := accounted
  rw [phase] at leaves
  obtain rfl : left = metric :: rest := leaves
  rcases metric.toNamedUpdate_cases with
    ⟨found, named, converts, isNamed⟩ | ⟨error, refused, -⟩
  · obtain rfl : found = update := Except.ok.inj (named.symm.trans isUpdate)
    refine ⟨made ++ [metric], rest, ⟨?_, ?_, ?_⟩, Phase.leaves_ofMetrics service rest⟩
    · change call.metrics = _
      rw [split, List.append_assoc, List.singleton_append]
    · intro entry present
      rcases List.mem_append.mp present with earlier | last
      · exact valid entry earlier
      · rw [List.mem_singleton.mp last]
        exact isNamed
    · change call.applied ++ [found] = _
      rw [applied]
      simp [Snapshot.validUpdates, converts, Except.toOption]
  · rw [isUpdate] at refused
    cases refused

/-- An update whose next metric is invalid stays accounted for. -/
theorem Call.IsAccounted.refuse
    {call : Call} {metric : Metric} {rest : List Metric} {error : MetricError}
    (accounted : call.IsAccounted)
    (phase : call.phase = .applying metric rest)
    (refused : metric.toNamedUpdate = .error error)
    (service : Service) :
    Call.IsAccounted
      { call with phase := .afterSync service (.error (.invalid error)) } := by
  rcases metric.toNamedUpdate_cases with ⟨update, named, -, -⟩ | ⟨found, stopped, stops⟩
  · rw [refused] at named
    cases named
  · obtain rfl : found = error := Except.error.inj (stopped.symm.trans refused)
    refine accounted.move fun {left} leaves => ?_
    rw [phase] at leaves
    have stopped : LeavesUnapplied (.error (.invalid found)) left :=
      ⟨metric, rest, leaves, stops⟩
    exact Phase.leaves_afterSync stopped service

namespace Interleaving

/-- Every update is accounted for, and the counters are what they were at the start and all that
has been added to them. -/
structure Accounted (store : Store) (system : Interleaving) : Prop where
  calls : ∀ call ∈ system.calls, call.IsAccounted
  counters : ∀ name, system.store.counter? name =
    Store.increased (store.counter? name)
      ((system.calls.flatMap Call.applied).filterMap (Update.delta? name))

variable {service : Service} {store : Store} {system next : Interleaving}

/-- An update that goes on without applying anything leaves all accounts right. -/
theorem Accounted.move
    {before : Interleaving} {index : Nat} {call : Call} {phase : Phase}
    (accounted : Accounted store system)
    (calls : before.calls = system.calls)
    (stored : before.store = system.store)
    (found : system.calls[index]? = some call)
    (kept : call.IsAccounted -> Call.IsAccounted { call with phase }) :
    Accounted store (before.move index call phase) := by
  refine ⟨fun other present => ?_, fun name => ?_⟩
  · change other ∈ before.calls.set index _ at present
    rw [calls] at present
    rcases List.mem_or_eq_of_mem_set present with old | rfl
    · exact accounted.calls other old
    · exact kept (accounted.calls call (List.mem_of_getElem? found))
  · change before.store.counter? name = _
    have same : (system.calls.set index { call with phase }).flatMap Call.applied =
        system.calls.flatMap Call.applied :=
      flatMap_set_eq found rfl
    rw [stored, accounted.counters name]
    change _ = Store.increased _ (((before.calls.set index _).flatMap _).filterMap _)
    rw [calls, same]

/-- Each step leaves all accounts right. -/
theorem Accounted.step
    (accounted : Accounted store system)
    (step : Step service system next) :
    Accounted store next := by
  cases step with
  | called metrics =>
      refine ⟨fun call present => ?_, fun name => ?_⟩
      · rcases List.mem_append.mp present with old | last
        · exact accounted.calls call old
        · rw [List.mem_singleton.mp last]
          exact ⟨[], metrics, ⟨rfl, by simp, rfl⟩, Phase.leaves_ofMetrics service metrics⟩
      · change system.store.counter? name = _
        rw [accounted.counters name]
        simp [Interleaving.call]
  | applied index call metric rest update found phase isUpdate =>
      refine ⟨fun other present => ?_, fun name => ?_⟩
      · rcases List.mem_or_eq_of_mem_set present with old | rfl
        · exact accounted.calls other old
        · exact (accounted.calls call (List.mem_of_getElem? found)).apply phase isUpdate service
      · have grown : ((system.calls.set index
              { call with
                applied := call.applied ++ [update]
                phase := .ofMetrics service rest }).flatMap Call.applied).Perm
            (system.calls.flatMap Call.applied ++ [update]) :=
          flatMap_set_perm found rfl
        have added := (grown.filterMap (Update.delta? name))
        change (system.store.applyAll [update]).counter? name = _
        rw [Store.counter?_applyAll, accounted.counters name, ← Store.increased_append,
          ← List.filterMap_append]
        exact (Store.increased_perm added _).symm
  | refused index call metric rest error found phase refused =>
      exact accounted.move rfl rfl found fun account => account.refuse phase refused service
  | copied index call found phase =>
      refine accounted.move rfl rfl found fun account => account.move fun leaves => ?_
      rw [phase] at leaves
      exact leaves
  | synced index call copy found phase =>
      refine accounted.move rfl rfl found fun account => account.move fun {rest} leaves => ?_
      rw [phase] at leaves
      have none : LeavesUnapplied (.ok ()) rest := leaves
      exact Phase.leaves_afterSync none service
  | unsynced index call copy error found phase =>
      refine accounted.move rfl rfl found fun account => account.move fun {rest} leaves => ?_
      rw [phase] at leaves
      have none : LeavesUnapplied (.error (.unsaved error)) rest := leaves
      exact Phase.leaves_afterSync none service
  | unsaved index call result found phase =>
      refine accounted.move rfl rfl found fun account => account.move fun leaves => ?_
      rcases phase with phase | ⟨content, phase⟩ <;>
        rw [phase] at leaves <;>
        exact leaves
  | locked index call result found phase free =>
      refine accounted.move rfl rfl found fun account => account.move fun leaves => ?_
      rw [phase] at leaves
      exact leaves
  | read index call result found phase =>
      refine accounted.move rfl rfl found fun account => account.move fun leaves => ?_
      rw [phase] at leaves
      exact leaves
  | replaced index call content result found phase =>
      refine accounted.move rfl rfl found fun account => account.move fun leaves => ?_
      rw [phase] at leaves
      exact leaves
  | released index call result found phase =>
      refine accounted.move rfl rfl found fun account => account.move fun leaves => ?_
      rw [phase] at leaves
      exact leaves

end Interleaving
end Service
end Telemetry
