import Telemetry.Proofs.Service.Accounts

/-!
# What concurrent updates leave in the snapshot

Only the update that has the lock reads the store for the snapshot and replaces
it, and every update does so after it has applied its last metric.  So the
store that was read last is the store as it is once all updates have returned,
whichever of them was called or was done last.
-/

namespace Telemetry
namespace Service

/-- An update has yet to read the store for the snapshot. -/
def Phase.IsBeforeReading : Phase -> Prop
  | .applying _ _ => True
  | .copying => True
  | .syncing _ => True
  | .locking _ => True
  | .reading _ => True
  | _ => False

/-- An update has the lock on the snapshot. -/
def Phase.HasLock : Phase -> Prop
  | .reading _ => True
  | .replacing _ _ => True
  | .releasing _ => True
  | _ => False

section Phases

variable {service : Service} {path : String}

theorem Phase.isBeforeReading_afterSync
    (saves : service.snapshot = some path)
    (result : Except UpdateError Unit) :
    (afterSync service result).IsBeforeReading := by
  unfold afterSync
  rw [saves]
  trivial

theorem Phase.isBeforeReading_ofMetrics
    (saves : service.snapshot = some path)
    (metrics : List Metric) :
    (ofMetrics service metrics).IsBeforeReading := by
  cases metrics with
  | nil =>
      change (afterMetrics service).IsBeforeReading
      unfold afterMetrics
      cases service.repository with
      | none => exact isBeforeReading_afterSync saves (.ok ())
      | some repository => trivial
  | cons metric rest => trivial

theorem Phase.not_hasLock_afterSync (service : Service) (result : Except UpdateError Unit) :
    ¬ (afterSync service result).HasLock := by
  unfold afterSync
  split <;> exact id

theorem Phase.not_hasLock_ofMetrics (service : Service) (metrics : List Metric) :
    ¬ (ofMetrics service metrics).HasLock := by
  cases metrics with
  | nil =>
      change ¬ (afterMetrics service).HasLock
      unfold afterMetrics
      cases service.repository with
      | none => exact not_hasLock_afterSync service (.ok ())
      | some repository => exact id
  | cons metric rest => exact id

end Phases

namespace Interleaving

variable {service : Service} {store : Store} {system next : Interleaving} {path : String}

/-! ## The lock -/

/-- Only the update that the lock names has the lock. -/
def Exclusive (system : Interleaving) : Prop :=
  ∀ index call, system.calls[index]? = some call -> call.phase.HasLock ->
    system.lock = some index

/-- An update that takes no lock and keeps none it did not have leaves the lock exclusive. -/
theorem Exclusive.set
    {before : Interleaving} {index : Nat} {call new : Call}
    (exclusive : system.Exclusive)
    (calls : before.calls = system.calls.set index new)
    (lock : before.lock = system.lock)
    (found : system.calls[index]? = some call)
    (kept : new.phase.HasLock -> call.phase.HasLock) :
    before.Exclusive := by
  intro other held present holds
  rw [calls] at present
  rw [lock]
  rcases getElem?_set_cases present with ⟨rfl, rfl⟩ | ⟨-, old⟩
  · exact exclusive _ _ found (kept holds)
  · exact exclusive _ _ old holds

/-- Each step leaves the lock exclusive. -/
theorem Exclusive.step
    (exclusive : system.Exclusive)
    (step : Step service system next) :
    next.Exclusive := by
  cases step with
  | called metrics =>
      intro index call found holds
      rcases getElem?_concat_cases found with old | ⟨-, rfl⟩
      · exact exclusive _ _ old holds
      · exact absurd holds (Phase.not_hasLock_ofMetrics service metrics)
  | applied index call metric rest update found phase isUpdate =>
      exact exclusive.set rfl rfl found fun holds =>
        absurd holds (Phase.not_hasLock_ofMetrics service rest)
  | refused index call metric rest error found phase refused =>
      exact exclusive.set rfl rfl found fun holds =>
        absurd holds (Phase.not_hasLock_afterSync service _)
  | copied index call found phase => exact exclusive.set rfl rfl found False.elim
  | synced index call copy found phase =>
      exact exclusive.set rfl rfl found fun holds =>
        absurd holds (Phase.not_hasLock_afterSync service _)
  | unsynced index call copy error found phase =>
      exact exclusive.set rfl rfl found fun holds =>
        absurd holds (Phase.not_hasLock_afterSync service _)
  | locked index call result found phase free =>
      intro other held present holds
      rcases getElem?_set_cases present with ⟨rfl, -⟩ | ⟨-, old⟩
      · rfl
      · have taken := exclusive _ _ old holds
        rw [free] at taken
        cases taken
  | read index call result found phase =>
      exact exclusive.set rfl rfl found fun _ => by rw [phase]; trivial
  | replaced index call content result found phase =>
      exact exclusive.set rfl rfl found fun _ => by rw [phase]; trivial
  | unsaved index call result found phase =>
      refine exclusive.set rfl rfl found fun _ => ?_
      rcases phase with phase | ⟨content, phase⟩ <;>
        rw [phase] <;>
        trivial
  | released index call result found phase =>
      intro other held present holds
      rcases getElem?_set_cases present with ⟨-, rfl⟩ | ⟨different, old⟩
      · cases holds
      · have mine : call.phase.HasLock := by rw [phase]; trivial
        have same := (exclusive _ _ old holds).symm.trans (exclusive _ _ found mine)
        exact absurd (Option.some.inj same) different

theorem exclusive_start (store : Store) : (start store).Exclusive := by
  intro index call found
  simp [start] at found

/-- At no time are two updates replacing the snapshot. -/
theorem exclusive_run (service : Service) (store : Store) (events : List Event) :
    (run service (start store) events).Exclusive :=
  run_induction (exclusive_start store) Exclusive.step events

/-! ## The snapshot -/

/-- The content of the snapshot that holds the store as it is now. -/
def due (system : Interleaving) : Bytes :=
  Snapshot.content system.store.metrics

/-- An update is replacing the snapshot. -/
def Replaces (system : Interleaving) (index : Nat) (content : Bytes) : Prop :=
  ∃ call result, system.calls[index]? = some call ∧ call.phase = .replacing content result

/-- The snapshot holds the store as it is now, or some update is still to see to that, or a
snapshot could not be written. -/
inductive Upheld (system : Interleaving) : Prop
  /-- No update has been called. -/
  | uncalled : system.calls = [] -> Upheld system
  /-- A snapshot could not be written. -/
  | failed : system.unsaved ≠ 0 -> Upheld system
  /-- An update has yet to read the store. -/
  | unread (index : Nat) (call : Call) :
      system.calls[index]? = some call ->
      call.phase.IsBeforeReading ->
      Upheld system
  /-- An update has read the store as it is now. -/
  | read (index : Nat) : system.Replaces index system.due -> Upheld system
  /-- The snapshot holds the store as it is now, and no update is replacing it. -/
  | saved :
      system.snapshot = some system.due ->
      (∀ index content, ¬ system.Replaces index content) ->
      Upheld system

/-- An update that has yet to read the store sees to the snapshot. -/
theorem upheld_of_set
    {index : Nat} {call new : Call}
    (calls : next.calls = system.calls.set index new)
    (found : system.calls[index]? = some call)
    (unread : new.phase.IsBeforeReading) :
    next.Upheld := by
  have inside := (List.getElem?_eq_some_iff.mp found).1
  exact .unread index new (by rw [calls, List.getElem?_set_self inside]) unread

/-- An update that has yet to read the store still has to when one that has read it goes on. -/
theorem upheld_of_unread
    {index other : Nat} {call waiting new : Call}
    (calls : next.calls = system.calls.set index new)
    (found : system.calls[index]? = some call)
    (read : ¬ call.phase.IsBeforeReading)
    (waits : system.calls[other]? = some waiting)
    (unread : waiting.phase.IsBeforeReading) :
    next.Upheld := by
  have differs : call ≠ waiting := fun same => read (same ▸ unread)
  exact .unread other waiting (by rw [calls, getElem?_set_of_differs found waits differs]) unread

/-- An update other than the one that was changed replaces the snapshot as before. -/
theorem Replaces.of_set
    {index other : Nat} {new : Call} {content : Bytes}
    (calls : next.calls = system.calls.set index new)
    (replaces : next.Replaces other content)
    (still : ∀ {content result}, new.phase ≠ .replacing content result) :
    other ≠ index ∧ system.Replaces other content := by
  obtain ⟨call, result, found, phase⟩ := replaces
  rw [calls] at found
  rcases getElem?_set_cases found with ⟨-, rfl⟩ | ⟨different, old⟩
  · exact absurd phase still
  · exact ⟨different, call, result, old, phase⟩

/-- An update that replaces the snapshot still does when another goes on. -/
theorem Replaces.set
    {index other : Nat} {call new : Call} {content : Bytes}
    (replaces : system.Replaces other content)
    (calls : next.calls = system.calls.set index new)
    (found : system.calls[index]? = some call)
    (idle : ∀ {content result}, call.phase ≠ .replacing content result) :
    next.Replaces other content := by
  obtain ⟨replacing, result, present, phase⟩ := replaces
  have differs : call ≠ replacing := fun same => idle (same ▸ phase)
  exact ⟨replacing, result, by rw [calls, getElem?_set_of_differs found present differs], phase⟩

/-- An update that replaces the snapshot has the lock. -/
theorem Replaces.lock
    {index : Nat} {content : Bytes}
    (replaces : system.Replaces index content)
    (exclusive : system.Exclusive) :
    system.lock = some index := by
  obtain ⟨call, result, found, phase⟩ := replaces
  exact exclusive index call found (by rw [phase]; trivial)

/-- Each step of updates that save the snapshot upholds it. -/
theorem Upheld.step
    (saves : service.snapshot = some path)
    (exclusive : system.Exclusive)
    (upheld : system.Upheld)
    (step : Step service system next) :
    next.Upheld := by
  cases step with
  | called metrics =>
      exact .unread system.calls.length _ List.getElem?_concat_length
        (Phase.isBeforeReading_ofMetrics saves metrics)
  | applied index call metric rest update found phase isUpdate =>
      exact upheld_of_set rfl found (Phase.isBeforeReading_ofMetrics saves rest)
  | refused index call metric rest error found phase refused =>
      exact upheld_of_set rfl found (Phase.isBeforeReading_afterSync saves _)
  | copied index call found phase => exact upheld_of_set rfl found trivial
  | synced index call copy found phase =>
      exact upheld_of_set rfl found (Phase.isBeforeReading_afterSync saves _)
  | unsynced index call copy error found phase =>
      exact upheld_of_set rfl found (Phase.isBeforeReading_afterSync saves _)
  | locked index call result found phase free => exact upheld_of_set rfl found trivial
  | read index call result found phase =>
      have inside := (List.getElem?_eq_some_iff.mp found).1
      exact .read index ⟨_, result, List.getElem?_set_self inside, rfl⟩
  | replaced index call content result found phase =>
      have mine : system.Replaces index content := ⟨call, result, found, phase⟩
      cases upheld with
      | uncalled none => simp [none] at found
      | failed unsaved => exact .failed unsaved
      | unread other waiting waits unread =>
          exact upheld_of_unread rfl found (by rw [phase]; exact id) waits unread
      | read other replaces =>
          have same := (replaces.lock exclusive).symm.trans (mine.lock exclusive)
          obtain rfl : other = index := Option.some.inj same
          obtain ⟨replacing, ended, present, reads⟩ := replaces
          obtain rfl : call = replacing := Option.some.inj (found.symm.trans present)
          obtain rfl : content = system.due := by
            rw [phase] at reads
            cases reads
            rfl
          refine .saved rfl fun last content remaining => ?_
          obtain ⟨different, old⟩ := remaining.of_set rfl nofun
          have taken := (old.lock exclusive).symm.trans (mine.lock exclusive)
          exact different (Option.some.inj taken)
      | saved saved idle => exact absurd mine (idle index content)
  | unsaved index call result found phase => exact .failed (Nat.succ_ne_zero _)
  | released index call result found phase =>
      cases upheld with
      | uncalled none => simp [none] at found
      | failed unsaved => exact .failed unsaved
      | unread other waiting waits unread =>
          exact upheld_of_unread rfl found (by rw [phase]; exact id) waits unread
      | read other replaces =>
          exact .read other (replaces.set rfl found (by rw [phase]; nofun))
      | saved saved idle =>
          refine .saved saved fun other content replaces => ?_
          exact idle other content (replaces.of_set rfl nofun).2

end Interleaving
end Service
end Telemetry
