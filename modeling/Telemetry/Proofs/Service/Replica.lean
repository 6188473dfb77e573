import Telemetry.Proofs.Service.Concurrent

/-!
# What concurrent updates leave in the repository

Every update gives the repository a copy of the store, which it has made before.
The copy that was made last is a copy of the store as it is once all updates
have returned, and it is given to the repository.  But nothing makes an older
copy wait behind it: the repository mirrors the store when it is done with that
copy last, and may be left with an older one when it is not.
-/

namespace Telemetry
namespace Service

/-- The result of an update, once it is known. -/
def Phase.result? : Phase -> Option (Except UpdateError Unit)
  | .applying _ _ => none
  | .copying => none
  | .syncing _ => none
  | .locking result => some result
  | .reading result => some result
  | .replacing _ result => some result
  | .releasing result => some result
  | .done result => some result

/-- An update has yet to copy the store. -/
def Phase.IsBeforeCopying : Phase -> Prop
  | .applying _ _ => True
  | .copying => True
  | _ => False

theorem Phase.result?_afterSync (service : Service) (result : Except UpdateError Unit) :
    (afterSync service result).result? = some result := by
  unfold afterSync
  split <;> rfl

theorem Phase.isBeforeCopying_ofMetrics
    {service : Service} {repository : Repository}
    (mirrors : service.repository = some repository)
    (metrics : List Metric) :
    (ofMetrics service metrics).IsBeforeCopying := by
  cases metrics with
  | nil =>
      change (afterMetrics service).IsBeforeCopying
      unfold afterMetrics
      rw [mirrors]
      trivial
  | cons metric rest => trivial

theorem Phase.not_isBeforeCopying_of_result?
    {phase : Phase} {result : Except UpdateError Unit}
    (known : phase.result? = some result) :
    ¬ phase.IsBeforeCopying := by
  cases phase with
  | applying metric rest => cases known
  | copying => cases known
  | syncing copy => cases known
  | locking _ => exact id
  | reading _ => exact id
  | replacing _ _ => exact id
  | releasing _ => exact id
  | done _ => exact id

namespace Interleaving

variable {service : Service} {store : Store} {system next : Interleaving}
variable {repository : Repository}

/-! ## Results -/

/-- An update has a result. -/
def HasResult (system : Interleaving) (index : Nat) (result : Except UpdateError Unit) : Prop :=
  ∃ call, system.calls[index]? = some call ∧ call.phase.result? = some result

/-- A known result stays when an update goes on to the same result or had none before. -/
theorem HasResult.set
    {index other : Nat} {call new : Call} {result : Except UpdateError Unit}
    (has : system.HasResult other result)
    (calls : next.calls = system.calls.set index new)
    (found : system.calls[index]? = some call)
    (kept : ∀ result, call.phase.result? = some result -> new.phase.result? = some result) :
    next.HasResult other result := by
  obtain ⟨ended, present, known⟩ := has
  by_cases same : other = index
  · subst same
    obtain rfl : call = ended := Option.some.inj (found.symm.trans present)
    have inside := (List.getElem?_eq_some_iff.mp found).1
    exact ⟨new, by rw [calls, List.getElem?_set_self inside], kept result known⟩
  · exact ⟨ended, by rw [calls, List.getElem?_set_ne (Ne.symm same), present], known⟩

/-- No step changes a known result. -/
theorem HasResult.step
    {index : Nat} {result : Except UpdateError Unit}
    (has : system.HasResult index result)
    (step : Step service system next) :
    next.HasResult index result := by
  cases step with
  | called metrics =>
      obtain ⟨call, found, known⟩ := has
      refine ⟨call, ?_, known⟩
      exact (List.getElem?_append_left (List.getElem?_eq_some_iff.mp found).1).trans found
  | applied index call metric rest update found phase isUpdate =>
      exact has.set rfl found (by rw [phase]; nofun)
  | refused index call metric rest error found phase refused =>
      exact has.set rfl found (by rw [phase]; nofun)
  | copied index call found phase => exact has.set rfl found (by rw [phase]; nofun)
  | synced index call copy found phase => exact has.set rfl found (by rw [phase]; nofun)
  | unsynced index call copy error found phase => exact has.set rfl found (by rw [phase]; nofun)
  | locked index call result found phase free =>
      exact has.set rfl found fun _ known => by rwa [phase] at known
  | read index call result found phase =>
      exact has.set rfl found fun _ known => by rwa [phase] at known
  | replaced index call content result found phase =>
      exact has.set rfl found fun _ known => by rwa [phase] at known
  | unsaved index call result found phase =>
      refine has.set rfl found fun _ known => ?_
      rcases phase with phase | ⟨content, phase⟩ <;>
        rwa [phase] at known
  | released index call result found phase =>
      exact has.set rfl found fun _ known => by rwa [phase] at known

/-- Some update has failed. -/
def Failing (system : Interleaving) : Prop :=
  ∃ index error, system.HasResult index (.error error)

/-! ## Copies -/

/-- The last copy of the store is a copy of the store as it is now, or will soon be made. -/
inductive Fresh (system : Interleaving) : Prop
  /-- No update has been called. -/
  | uncalled : system.calls = [] -> Fresh system
  /-- An update has yet to copy the store. -/
  | uncopied (index : Nat) (call : Call) :
      system.calls[index]? = some call ->
      call.phase.IsBeforeCopying ->
      Fresh system
  /-- The update that copied the store last has yet to give the repository its copy. -/
  | copied (index : Nat) (call : Call) :
      system.copied.getLast? = some index ->
      system.calls[index]? = some call ->
      call.phase = .syncing system.store.metrics ->
      Fresh system
  /-- The update that copied the store last has given the repository its copy. -/
  | synced (index : Nat) :
      system.copied.getLast? = some index ->
      (index, system.store.metrics) ∈ system.synced ->
      Fresh system

/-- Every update has given the repository one copy at most, the repository took the last one it was
given, and the last copy of the store is fresh. -/
structure Mirrored (system : Interleaving) : Prop where
  once : (system.synced.map Prod.fst).Nodup
  ended : ∀ index copy, (index, copy) ∈ system.synced -> ∃ result, system.HasResult index result
  replica : system.replica = (system.synced.map Prod.snd).getLast?
  fresh : system.Fresh

/-- An update that goes on to the same result leaves the copies as they are. -/
theorem Mirrored.set
    {index : Nat} {call new : Call} {result : Except UpdateError Unit}
    (mirrored : system.Mirrored)
    (step : Step service system next)
    (calls : next.calls = system.calls.set index new)
    (found : system.calls[index]? = some call)
    (known : call.phase.result? = some result)
    (shared : (next.store, next.copied, next.synced, next.replica) =
      (system.store, system.copied, system.synced, system.replica)) :
    next.Mirrored := by
  obtain ⟨stored, copied, synced, replica⟩ : next.store = system.store ∧
      next.copied = system.copied ∧ next.synced = system.synced ∧
      next.replica = system.replica := by
    simpa using shared
  refine ⟨by rw [synced]; exact mirrored.once, ?_, by rw [replica, synced]; exact mirrored.replica,
    ?_⟩
  · intro other copy given
    rw [synced] at given
    obtain ⟨result, has⟩ := mirrored.ended other copy given
    exact ⟨result, has.step step⟩
  · cases mirrored.fresh with
    | uncalled none => simp [none] at found
    | uncopied other waiting present uncopied =>
        have differs : call ≠ waiting := fun same =>
          Phase.not_isBeforeCopying_of_result? known (same ▸ uncopied)
        refine .uncopied other waiting ?_ uncopied
        rw [calls, getElem?_set_of_differs found present differs]
    | copied other waiting last present phase =>
        have differs : call ≠ waiting := by
          rintro rfl
          rw [phase] at known
          cases known
        refine .copied other waiting (by rw [copied, last]) ?_ (by rw [stored, phase])
        rw [calls, getElem?_set_of_differs found present differs]
    | synced other last given =>
        exact .synced other (by rw [copied, last]) (by rwa [stored, synced])

/-- An update that has not given the repository its copy is not among those that have. -/
theorem Mirrored.notMem_synced
    {index : Nat} {call : Call}
    (mirrored : system.Mirrored)
    (found : system.calls[index]? = some call)
    (unknown : call.phase.result? = none) :
    index ∉ system.synced.map Prod.fst := by
  intro given
  obtain ⟨⟨other, copy⟩, taken, rfl⟩ := List.mem_map.mp given
  obtain ⟨result, ended, present, known⟩ := mirrored.ended other copy taken
  obtain rfl : call = ended := Option.some.inj (found.symm.trans present)
  rw [unknown] at known
  cases known

/-- An update with metrics left leaves the copies as they are when it goes on to another or to
copying the store. -/
theorem Mirrored.uncopied
    {index : Nat} {call : Call}
    (mirrored : system.Mirrored)
    (step : Step service system next)
    (found : next.calls[index]? = some call)
    (uncopied : call.phase.IsBeforeCopying)
    (synced : next.synced = system.synced)
    (replica : next.replica = system.replica) :
    next.Mirrored := by
  refine ⟨by rw [synced]; exact mirrored.once, fun other copy given => ?_,
    by rw [replica, synced]; exact mirrored.replica, .uncopied index call found uncopied⟩
  rw [synced] at given
  obtain ⟨result, has⟩ := mirrored.ended other copy given
  exact ⟨result, has.step step⟩

/-- An update that copies the store makes the last copy fresh. -/
theorem Mirrored.copy
    {index : Nat} {call : Call}
    (mirrored : system.Mirrored)
    (found : system.calls[index]? = some call)
    (step : Step service system
      ({ system with copied := system.copied ++ [index] }.move index call
        (.syncing system.store.metrics))) :
    Mirrored
      ({ system with copied := system.copied ++ [index] }.move index call
        (.syncing system.store.metrics)) := by
  have inside := (List.getElem?_eq_some_iff.mp found).1
  refine ⟨mirrored.once, fun other copy given => ?_, mirrored.replica, ?_⟩
  · obtain ⟨result, has⟩ := mirrored.ended other copy given
    exact ⟨result, has.step step⟩
  · exact .copied index _ List.getLast?_concat (List.getElem?_set_self inside) rfl

/-- An update whose copy the repository takes leaves the last copy fresh. -/
theorem Mirrored.sync
    {index : Nat} {call : Call} {copy : List Metric}
    (mirrored : system.Mirrored)
    (found : system.calls[index]? = some call)
    (phase : call.phase = .syncing copy)
    (step : Step service system
      ({ system with
          synced := system.synced ++ [(index, copy)]
          replica := some copy }.move index call (.afterSync service (.ok ())))) :
    Mirrored
      ({ system with
          synced := system.synced ++ [(index, copy)]
          replica := some copy }.move index call (.afterSync service (.ok ()))) := by
  have inside := (List.getElem?_eq_some_iff.mp found).1
  refine ⟨?_, fun other taken given => ?_, ?_, ?_⟩
  · change ((system.synced ++ [(index, copy)]).map Prod.fst).Nodup
    rw [List.map_append, List.map_singleton, List.nodup_append]
    have fresh := mirrored.notMem_synced found (by rw [phase]; rfl)
    refine ⟨mirrored.once, List.nodup_singleton index, fun earlier given last same => ?_⟩
    rw [List.mem_singleton.mp same]
    rintro rfl
    exact fresh given
  · rcases List.mem_append.mp given with old | last
    · obtain ⟨result, has⟩ := mirrored.ended other taken old
      exact ⟨result, has.step step⟩
    · obtain ⟨rfl, rfl⟩ := Prod.mk.inj (List.mem_singleton.mp last)
      exact ⟨.ok (), _, List.getElem?_set_self inside, Phase.result?_afterSync service _⟩
  · change some copy = ((system.synced ++ [(index, copy)]).map Prod.snd).getLast?
    rw [List.map_append, List.map_singleton, List.getLast?_concat]
  · cases mirrored.fresh with
    | uncalled none => simp [none] at found
    | uncopied other waiting present uncopied =>
        have differs : call ≠ waiting := by
          rintro rfl
          rw [phase] at uncopied
          exact uncopied
        exact .uncopied other waiting (getElem?_set_of_differs found present differs) uncopied
    | copied other waiting last present waits =>
        by_cases same : index = other
        · subst same
          obtain rfl : call = waiting := Option.some.inj (found.symm.trans present)
          obtain rfl : copy = system.store.metrics := by
            rw [phase] at waits
            exact Phase.syncing.inj waits
          exact .synced index last (List.mem_append_right _ (List.mem_singleton.mpr rfl))
        · exact .copied other waiting last ((List.getElem?_set_ne same).trans present) waits
    | synced other last given => exact .synced other last (List.mem_append_left _ given)

/-- Each step keeps the copies in order, as long as no update fails. -/
theorem Mirrored.step
    (mirrors : service.repository = some repository)
    (mirrored : system.Mirrored)
    (step : Step service system next) :
    next.Failing ∨ next.Mirrored := by
  have taken := step
  cases step with
  | called metrics =>
      exact Or.inr (mirrored.uncopied taken List.getElem?_concat_length
        (Phase.isBeforeCopying_ofMetrics mirrors metrics) rfl rfl)
  | applied index call metric rest update found phase isUpdate =>
      have inside := (List.getElem?_eq_some_iff.mp found).1
      exact Or.inr (mirrored.uncopied taken (List.getElem?_set_self inside)
        (Phase.isBeforeCopying_ofMetrics mirrors rest) rfl rfl)
  | refused index call metric rest error found phase refused =>
      have inside := (List.getElem?_eq_some_iff.mp found).1
      exact Or.inl ⟨index, _, _, List.getElem?_set_self inside, Phase.result?_afterSync service _⟩
  | copied index call found phase => exact Or.inr (mirrored.copy found taken)
  | synced index call copy found phase => exact Or.inr (mirrored.sync found phase taken)
  | unsynced index call copy error found phase =>
      have inside := (List.getElem?_eq_some_iff.mp found).1
      exact Or.inl ⟨index, _, _, List.getElem?_set_self inside, Phase.result?_afterSync service _⟩
  | locked index call result found phase free =>
      exact Or.inr (mirrored.set taken rfl found (by rw [phase]; rfl) rfl)
  | read index call result found phase =>
      exact Or.inr (mirrored.set taken rfl found (by rw [phase]; rfl) rfl)
  | replaced index call content result found phase =>
      exact Or.inr (mirrored.set taken rfl found (by rw [phase]; rfl) rfl)
  | unsaved index call result found phase =>
      have known : call.phase.result? = some result := by
        rcases phase with phase | ⟨content, phase⟩ <;>
          rw [phase] <;>
          rfl
      exact Or.inr (mirrored.set taken rfl found known rfl)
  | released index call result found phase =>
      exact Or.inr (mirrored.set taken rfl found (by rw [phase]; rfl) rfl)

theorem mirrored_start (store : Store) : (start store).Mirrored where
  once := List.nodup_nil
  ended := nofun
  replica := rfl
  fresh := .uncalled rfl

/-- After any run some update has failed or the copies are in order. -/
theorem mirrored_run
    (mirrors : service.repository = some repository)
    (store : Store)
    (events : List Event) :
    (run service (start store) events).Failing ∨ (run service (start store) events).Mirrored := by
  refine run_induction (motive := fun system => system.Failing ∨ system.Mirrored)
    (Or.inr (mirrored_start store)) (fun held step => ?_) events
  rcases held with ⟨index, error, has⟩ | mirrored
  · exact Or.inl ⟨index, error, has.step step⟩
  · exact mirrored.step mirrors step

theorem done_of_isComplete
    {index : Nat} {call : Call}
    (complete : system.isComplete = true)
    (found : system.calls[index]? = some call) :
    call.phase = .done (.ok ()) := by
  have success := List.all_eq_true.mp complete call (List.mem_of_getElem? found)
  unfold Phase.isSuccess at success
  split at success
  next phase => exact phase
  next => cases success

/-- No update has failed when all have returned without an error. -/
theorem not_failing_of_isComplete (complete : system.isComplete = true) : ¬ system.Failing := by
  rintro ⟨index, error, call, found, known⟩
  rw [done_of_isComplete complete found] at known
  cases known

/-- Once all updates have returned, the copy that was made last is the store as it is, and the
repository was given it. -/
theorem Mirrored.synced_of_isComplete
    (mirrored : system.Mirrored)
    (complete : system.isComplete = true)
    (called : system.calls ≠ []) :
    ∃ index, system.copied.getLast? = some index ∧
      (index, system.store.metrics) ∈ system.synced := by
  cases mirrored.fresh with
  | uncalled none => exact absurd none called
  | uncopied index call found uncopied =>
      rw [done_of_isComplete complete found] at uncopied
      exact uncopied.elim
  | copied index call last found phase =>
      rw [done_of_isComplete complete found] at phase
      cases phase
  | synced index last given => exact ⟨index, last, given⟩

/-- The repository mirrors the store when it was done last with the copy that was made last. -/
theorem Mirrored.replica_of_last
    {index : Nat} {copy : List Metric}
    (mirrored : system.Mirrored)
    (given : (index, copy) ∈ system.synced)
    (last : (system.synced.map Prod.fst).getLast? = some index) :
    system.replica = some copy := by
  rw [mirrored.replica]
  rw [List.getLast?_map] at last ⊢
  obtain ⟨⟨taken, held⟩, isLast, rfl⟩ := Option.map_eq_some_iff.mp last
  have present := List.mem_of_getLast? isLast
  have same := List.inj_on_of_nodup_map mirrored.once present given rfl
  rw [isLast, same]
  rfl

/-- Once all updates have returned without an error, the repository was given the store as it is,
by the update that copied the store last; and it mirrors the store when that update was also the
last one whose copy it took. -/
theorem last_copy_mirrors_store
    (service : Service)
    (store : Store)
    (events : List Event)
    (repository : Repository)
    (mirrors : service.repository = some repository) :
    let system := run service (start store) events
    system.isComplete = true -> system.calls ≠ [] ->
      ∃ index, system.copied.getLast? = some index ∧
        (index, system.store.metrics) ∈ system.synced ∧
        ((system.synced.map Prod.fst).getLast? = some index ->
          system.replica = some system.store.metrics) := by
  intro system complete called
  rcases mirrored_run mirrors store events with failing | mirrored
  · exact absurd failing (not_failing_of_isComplete complete)
  · obtain ⟨index, last, given⟩ := mirrored.synced_of_isComplete complete called
    exact ⟨index, last, given, mirrored.replica_of_last given⟩

/-- A service whose repository takes every copy. -/
def mirroring : Service where
  repository := some { sync := fun _ => none, ping := fun _ => none }

/-- Two updates of one counter; the second one copies the store last, and the repository takes its
copy last. -/
def inTurn : List Event :=
  [.call [(Update.counter "requests" 1).toMetric], .call [(Update.counter "requests" 2).toMetric],
    .step 0, .step 0, .step 1, .step 1, .step 0, .step 1]

theorem inTurn_mirrors_store :
    let system := run mirroring (start {}) inTurn
    system.isComplete = true ∧ system.replica = some system.store.metrics := by
  have complete : isComplete (run mirroring (start {}) inTurn) = true := by decide
  obtain ⟨index, last, -, mirrors⟩ := last_copy_mirrors_store mirroring {} inTurn _ rfl complete
    (List.ne_nil_of_length_pos (by decide))
  obtain rfl : 1 = index := Option.some.inj last
  exact ⟨complete, mirrors rfl⟩

/-- Two updates of one counter; the second one copies the store last, but the repository takes the
copy of the first one last. -/
def overtaken : List Event :=
  [.call [(Update.counter "requests" 1).toMetric], .call [(Update.counter "requests" 2).toMetric],
    .step 0, .step 0, .step 1, .step 1, .step 1, .step 0]

/-- Both updates succeed, and the repository is left with the counter as it was before the
second. -/
theorem overtaken_leaves_old_copy :
    let system := run mirroring (start {}) overtaken
    system.isComplete = true ∧
      system.store.metrics = [(Update.counter "requests" 3).toMetric] ∧
      system.replica = some [(Update.counter "requests" 1).toMetric] := by
  refine ⟨by decide, ?_, ?_⟩
  · decide +kernel
  · decide +kernel

end Interleaving
end Service
end Telemetry
