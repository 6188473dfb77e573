import Mathlib.Data.List.Perm.Subperm
import Telemetry.Proofs.Entries
import Telemetry.Snapshot.Sharing

/-!
# Callers that save one snapshot exclude each other

The lock is held by a caller, and a writer works for the caller that has
started it.  So writers exclude each other as long as every caller stays until
its writer is done.  A caller that vanishes before lets the lock go, and then
its writer and the next one are at work at the same time.
-/

namespace Telemetry
namespace Snapshot
namespace Sharing

/-- The steps that callers and writers can take. -/
inductive Step (sharing : Sharing) : Sharing -> Prop
  /-- A caller comes. -/
  | called : Step sharing { sharing with callers := sharing.callers ++ [.waiting] }
  /-- A caller takes the lock and starts a writer. -/
  | acquired (caller : Nat) :
      sharing.callers[caller]? = some .waiting ->
      sharing.lock = none ->
      Step sharing
        { sharing with
          callers := sharing.callers.set caller (.saving sharing.writers.length)
          writers := sharing.writers ++ [.started]
          lock := some caller }
  /-- A writer reads the store. -/
  | read (writer : Nat) :
      sharing.writers[writer]? = some .started ->
      Step sharing
        { sharing with
          writers := sharing.writers.set writer (.filled sharing.store)
          reads := sharing.reads ++ [writer] }
  /-- A writer replaces the snapshot, or fails to. -/
  | finished (writer : Nat) (store : Store) (fails : Stage -> Bool) :
      sharing.writers[writer]? = some (.filled store) ->
      Step sharing (sharing.finish fails writer store)
  /-- A caller lets the lock go and returns. -/
  | released (caller writer : Nat) :
      sharing.callers[caller]? = some (.saving writer) ->
      sharing.hasFinished writer = true ->
      Step sharing
        { sharing with
          callers := sharing.callers.set caller .done
          lock := sharing.lockWithout caller }
  /-- A caller that waits for the lock vanishes. -/
  | gaveUp (caller : Nat) :
      sharing.callers[caller]? = some .waiting ->
      Step sharing { sharing with callers := sharing.callers.set caller .vanished }
  /-- A caller that waits for its writer vanishes. -/
  | deserted (caller writer : Nat) :
      sharing.callers[caller]? = some (.saving writer) ->
      Step sharing (sharing.desert caller writer)
  /-- The store is updated. -/
  | updated (update : Update) :
      Step sharing { sharing with store := sharing.store.apply update }

variable {sharing next : Sharing}

/-- Every event that can happen is one of the steps. -/
theorem step_of_step?
    {event : Event}
    (steps : sharing.step? event = some next) :
    Step sharing next := by
  cases event with
  | call =>
      cases steps
      exact .called
  | acquire caller =>
      simp only [step?] at steps
      split at steps
      next free =>
        cases steps
        exact .acquired caller free.1 free.2
      next => cases steps
  | read writer =>
      simp only [step?] at steps
      split at steps
      next found =>
        cases steps
        exact .read writer found
      next => cases steps
  | replace writer fails =>
      simp only [step?] at steps
      split at steps
      next store found =>
        cases steps
        exact .finished writer store fails found
      next => cases steps
  | release caller =>
      simp only [step?] at steps
      split at steps
      next writer found =>
        split at steps
        next finished =>
          cases steps
          exact .released caller writer found finished
        next => cases steps
      next => cases steps
  | vanish caller =>
      simp only [step?] at steps
      split at steps
      next found =>
        cases steps
        exact .gaveUp caller found
      next writer found =>
        cases steps
        exact .deserted caller writer found
      next => cases steps
  | update update =>
      cases steps
      exact .updated update

/-- What every step keeps is kept by a run. -/
theorem run_induction
    {motive : Sharing -> Prop}
    (start : motive sharing)
    (step : ∀ {before after}, motive before -> Step before after -> motive after)
    (events : List Event) :
    motive (run sharing events) := by
  induction events generalizing sharing with
  | nil => exact start
  | cons event rest inductionHypothesis =>
      refine inductionHypothesis ?_
      change motive ((step? sharing event).getD sharing)
      cases steps : step? sharing event with
      | none => exact start
      | some next => exact step start (step_of_step? steps)

/-! ## The lock -/

/-- A writer is at work. -/
def IsAtWork (sharing : Sharing) (writer : Nat) : Prop :=
  ∃ held, sharing.writers[writer]? = some held ∧ held.isAtWork = true

/-- A caller waits for a writer. -/
def Attends (sharing : Sharing) (caller writer : Nat) : Prop :=
  sharing.callers[caller]? = some (.saving writer)

theorem hasFinished_eq_false {writer : Nat} (works : sharing.IsAtWork writer) :
    sharing.hasFinished writer = false := by
  obtain ⟨held, found, atWork⟩ := works
  rw [hasFinished, found, Option.any_some, atWork]
  rfl

/-- A writer that takes the place of one at work was at work before, if it is now. -/
theorem IsAtWork.of_set
    {writer other : Nat} {old new : Writer}
    (found : sharing.writers[writer]? = some old)
    (kept : new.isAtWork = true -> old.isAtWork = true)
    (writers : next.writers = sharing.writers.set writer new)
    (works : next.IsAtWork other) :
    sharing.IsAtWork other := by
  obtain ⟨held, present, atWork⟩ := works
  rw [writers] at present
  rcases getElem?_set_cases present with ⟨rfl, rfl⟩ | ⟨-, present⟩
  · exact ⟨old, found, kept atWork⟩
  · exact ⟨held, present, atWork⟩

/-- A caller that goes away from where it was leaves the others waiting for their writers. -/
theorem Attends.set
    {caller other writer : Nat} {old new : Caller}
    (attends : sharing.Attends other writer)
    (found : sharing.callers[caller]? = some old)
    (differs : old ≠ .saving writer)
    (callers : next.callers = sharing.callers.set caller new) :
    next.Attends other writer := by
  rw [Attends, callers]
  exact getElem?_set_of_differs found attends differs

/-- A caller that waits for a writer after another one has gone did so before. -/
theorem Attends.of_set
    {caller other writer : Nat} {new : Caller}
    (attends : next.Attends other writer)
    (callers : next.callers = sharing.callers.set caller new)
    (idle : ∀ writer, new ≠ .saving writer) :
    other ≠ caller ∧ sharing.Attends other writer := by
  rw [Attends, callers] at attends
  rcases getElem?_set_cases attends with ⟨-, same⟩ | ⟨apart, attends⟩
  · exact absurd same.symm (idle writer)
  · exact ⟨apart, attends⟩

/-- Only the caller that the lock names waits for a writer, and every writer at work has a caller
that waits for it, or was deserted. -/
structure Guarded (sharing : Sharing) : Prop where
  holder : ∀ caller writer, sharing.Attends caller writer -> sharing.lock = some caller
  attended : ∀ writer, sharing.IsAtWork writer ->
    writer ∈ sharing.deserted ∨ ∃ caller, sharing.Attends caller writer

/-- Two callers that wait for their writers are one. -/
theorem Guarded.attends_unique
    {caller other writer last : Nat}
    (guarded : sharing.Guarded)
    (attends : sharing.Attends caller writer)
    (otherAttends : sharing.Attends other last) :
    caller = other ∧ writer = last := by
  have locks := (guarded.holder caller writer attends).symm.trans
    (guarded.holder other last otherAttends)
  obtain rfl := Option.some.inj locks
  exact ⟨rfl, Caller.saving.inj (Option.some.inj (attends.symm.trans otherAttends))⟩

/-- A change of callers that leaves the lock and the writers alone keeps them guarded. -/
theorem Guarded.of_gone
    {caller writer : Nat} {new : Caller}
    (guarded : sharing.Guarded)
    (found : sharing.Attends caller writer)
    (callers : next.callers = sharing.callers.set caller new)
    (idle : ∀ writer, new ≠ .saving writer)
    (writers : next.writers = sharing.writers)
    (deserted : ∀ other, other ∈ sharing.deserted ∨ (other = writer ∧ sharing.IsAtWork writer) ->
      other ∈ next.deserted) :
    next.Guarded where
  holder := by
    intro other last attends
    obtain ⟨apart, attends⟩ := attends.of_set callers idle
    exact absurd (guarded.attends_unique attends found).1 apart
  attended := by
    intro other works
    have worked : sharing.IsAtWork other := by
      rw [IsAtWork, ← writers]
      exact works
    rcases guarded.attended other worked with old | ⟨last, attends⟩
    · exact Or.inl (deserted other (Or.inl old))
    · obtain rfl := (guarded.attends_unique attends found).2
      exact Or.inl (deserted other (Or.inr ⟨rfl, worked⟩))

/-- Each step leaves writers guarded. -/
theorem Guarded.step
    (guarded : sharing.Guarded)
    (step : Step sharing next) :
    next.Guarded := by
  cases step with
  | called =>
      refine ⟨fun caller writer attends => ?_, fun writer works => ?_⟩
      · rcases getElem?_concat_cases attends with attends | ⟨-, same⟩
        · exact guarded.holder caller writer attends
        · cases same
      · refine (guarded.attended writer works).imp_right fun ⟨caller, attends⟩ => ⟨caller, ?_⟩
        exact (List.getElem?_append_left (List.getElem?_eq_some_iff.mp attends).1).trans attends
  | acquired caller found free =>
      have idle : ∀ other writer, ¬ sharing.Attends other writer := fun other writer attends => by
        have locked := guarded.holder other writer attends
        rw [free] at locked
        cases locked
      refine ⟨fun other writer attends => ?_, fun writer works => ?_⟩
      · rcases getElem?_set_cases attends with ⟨rfl, -⟩ | ⟨-, attends⟩
        · rfl
        · exact absurd attends (idle other writer)
      · obtain ⟨held, present, atWork⟩ := works
        rcases getElem?_concat_cases present with present | ⟨rfl, -⟩
        · refine (guarded.attended writer ⟨held, present, atWork⟩).imp_right fun ⟨other, attends⟩ =>
            absurd attends (idle other writer)
        · exact Or.inr ⟨caller, List.getElem?_set_self (List.getElem?_eq_some_iff.mp found).1⟩
  | read writer found =>
      exact ⟨guarded.holder, fun other works =>
        guarded.attended other (works.of_set found (fun _ => rfl) rfl)⟩
  | finished writer store fails found =>
      exact ⟨guarded.holder, fun other works =>
        guarded.attended other (works.of_set found (fun _ => rfl) rfl)⟩
  | released caller writer found finished =>
      refine guarded.of_gone found rfl nofun rfl ?_
      rintro other (old | ⟨-, works⟩)
      · exact old
      · rw [hasFinished_eq_false works] at finished
        cases finished
  | gaveUp caller found =>
      refine ⟨fun other writer attends => ?_, fun writer works => ?_⟩
      · exact guarded.holder other writer (attends.of_set rfl nofun).2
      · exact (guarded.attended writer works).imp_right fun ⟨other, attends⟩ =>
          ⟨other, attends.set found nofun rfl⟩
  | deserted caller writer found =>
      refine guarded.of_gone found rfl nofun rfl ?_
      rintro other (old | ⟨rfl, works⟩)
      · exact List.mem_append_left _ old
      · refine List.mem_append_right _ ?_
        rw [hasFinished_eq_false works]
        exact List.mem_singleton_self other
  | updated update => exact ⟨guarded.holder, guarded.attended⟩

/-- At most one writer at work has not been deserted. -/
theorem Guarded.unique
    {writer other : Nat}
    (guarded : sharing.Guarded)
    (works : sharing.IsAtWork writer)
    (otherWorks : sharing.IsAtWork other)
    (attended : writer ∉ sharing.deserted)
    (otherAttended : other ∉ sharing.deserted) :
    writer = other := by
  obtain ⟨caller, attends⟩ := (guarded.attended writer works).resolve_left attended
  obtain ⟨last, otherAttends⟩ := (guarded.attended other otherWorks).resolve_left otherAttended
  exact (guarded.attends_unique attends otherAttends).2

theorem mem_findIdxs_iff (sharing : Sharing) (writer : Nat) :
    writer ∈ sharing.writers.findIdxs Writer.isAtWork ↔ sharing.IsAtWork writer := by
  rw [List.mem_findIdxs_iff_exists_getElem_pos]
  constructor
  · rintro ⟨inside, atWork⟩
    exact ⟨_, List.getElem?_eq_getElem inside, atWork⟩
  · rintro ⟨held, found, atWork⟩
    obtain ⟨inside, rfl⟩ := List.getElem?_eq_some_iff.mp found
    exact ⟨inside, atWork⟩

/-- There is one writer at work at most besides those that have been deserted. -/
theorem Guarded.writersAtWork_le (guarded : sharing.Guarded) :
    sharing.writersAtWork ≤ sharing.deserted.length + 1 := by
  let working := sharing.writers.findIdxs Writer.isAtWork
  have count : sharing.writersAtWork = working.length := List.length_findIdxs.symm
  rw [count]
  by_cases allDeserted : ∀ writer ∈ working, writer ∈ sharing.deserted
  · have fits := (List.subperm_of_subset List.nodup_findIdxs allDeserted).length_le
    exact Nat.le_succ_of_le fits
  · push Not at allDeserted
    obtain ⟨writer, works, attended⟩ := allDeserted
    have inside : working ⊆ writer :: sharing.deserted := by
      intro other otherWorks
      by_cases isDeserted : other ∈ sharing.deserted
      · exact List.mem_cons_of_mem _ isDeserted
      · rw [guarded.unique ((mem_findIdxs_iff ..).mp otherWorks) ((mem_findIdxs_iff ..).mp works)
          isDeserted attended]
        exact List.mem_cons_self
    exact (List.subperm_of_subset List.nodup_findIdxs inside).length_le

/-! ## The order of writing -/

/-- Writers replace the snapshot in the order in which they read the store, and one that is yet to
replace it was the last to read. -/
structure InOrder (sharing : Sharing) : Prop where
  sublist : sharing.replaced.Sublist sharing.reads
  pending : ∀ writer store, sharing.writers[writer]? = some (.filled store) ->
    ∃ earlier, sharing.reads = earlier ++ [writer] ∧ sharing.replaced.Sublist earlier

/-- A writer that was deserted stays so. -/
theorem deserted_eq_nil_of_step
    (step : Step sharing next)
    (undeserted : next.deserted = []) :
    sharing.deserted = [] := by
  cases step with
  | deserted caller writer found => exact (List.append_eq_nil_iff.mp undeserted).1
  | _ => exact undeserted

/-- Each step keeps the order as long as no writer was deserted. -/
theorem InOrder.step
    (ordered : sharing.InOrder)
    (guarded : sharing.Guarded)
    (undeserted : sharing.deserted = [])
    (step : Step sharing next) :
    next.InOrder := by
  have unique {writer other : Nat} (works : sharing.IsAtWork writer)
      (otherWorks : sharing.IsAtWork other) : writer = other :=
    guarded.unique works otherWorks (by simp [undeserted]) (by simp [undeserted])
  cases step with
  | acquired caller found free =>
      refine ⟨ordered.sublist, fun writer store isFilled => ?_⟩
      rcases getElem?_concat_cases isFilled with isFilled | ⟨-, same⟩
      · exact ordered.pending writer store isFilled
      · cases same
  | read writer found =>
      refine ⟨ordered.sublist.trans (List.sublist_append_left _ _), fun other store isFilled => ?_⟩
      rcases getElem?_set_cases isFilled with ⟨rfl, -⟩ | ⟨apart, isFilled⟩
      · exact ⟨sharing.reads, rfl, ordered.sublist⟩
      · exact absurd (unique ⟨_, isFilled, rfl⟩ ⟨_, found, rfl⟩) apart
  | finished writer store fails found =>
      obtain ⟨earlier, reads, sublist⟩ := ordered.pending writer store found
      refine ⟨?_, fun other store isFilled => ?_⟩
      · change (sharing.replaced ++ _).Sublist sharing.reads
        rw [reads]
        refine sublist.append ?_
        split
        · exact List.Sublist.refl _
        · exact List.nil_sublist _
      · rcases getElem?_set_cases isFilled with ⟨-, same⟩ | ⟨apart, isFilled⟩
        · cases same
        · exact absurd (unique ⟨_, isFilled, rfl⟩ ⟨_, found, rfl⟩) apart
  | _ => exact ⟨ordered.sublist, ordered.pending⟩

section Runs

variable (path : String) (store : Store) (files : Files.Tree)

theorem guarded_start : Guarded { path, store, files } where
  holder := by
    intro caller writer attends
    simp [Attends] at attends
  attended := by
    rintro writer ⟨held, found, -⟩
    simp at found

theorem inOrder_start : InOrder { path, store, files } where
  sublist := List.Sublist.refl _
  pending := by
    intro writer held found
    simp at found

/-- Every run leaves writers guarded, and in order as long as none was deserted. -/
theorem guarded_run (events : List Event) :
    (run { path, store, files } events).Guarded ∧
      ((run { path, store, files } events).deserted = [] ->
        (run { path, store, files } events).InOrder) := by
  refine run_induction
    (motive := fun sharing => sharing.Guarded ∧ (sharing.deserted = [] -> sharing.InOrder))
    ⟨guarded_start path store files, fun _ => inOrder_start path store files⟩
    (fun ⟨guarded, ordered⟩ step => ⟨guarded.step step, fun undeserted => ?_⟩) events
  have before := deserted_eq_nil_of_step step undeserted
  exact (ordered before).step guarded before step

/--
At any moment of any run, at most one writer at work has not been deserted by its caller.  So as
long as no caller has vanished while its writer was at work, one writer is at work at most, and the
snapshot is replaced in the order in which the store was read.
-/
theorem writers_exclude_each_other_unless_deserted (events : List Event) :
    let sharing := run { path, store, files } events
    (∀ writer other, sharing.IsAtWork writer -> sharing.IsAtWork other ->
        writer ∉ sharing.deserted -> other ∉ sharing.deserted -> writer = other) ∧
      sharing.writersAtWork ≤ sharing.deserted.length + 1 ∧
      (sharing.deserted = [] ->
        sharing.writersAtWork ≤ 1 ∧ sharing.replaced.Sublist sharing.reads) := by
  intro sharing
  obtain ⟨guarded, ordered⟩ := guarded_run path store files events
  have count := guarded.writersAtWork_le
  refine ⟨fun _ _ => guarded.unique, count, fun undeserted => ⟨?_, (ordered undeserted).sublist⟩⟩
  rwa [undeserted] at count

end Runs

/-- The events up to the moment at which two writers have read the store: the caller of the first
one has vanished and so has let the lock go. -/
def desertion : List Event :=
  [.call, .call, .acquire 0, .read 0, .update (.counter "requests" 1), .vanish 0, .acquire 1,
    .read 1]

/-- The first writer is the last to replace the snapshot, with the store as it was before the
update. -/
def rollback : List Event :=
  desertion ++ [.replace 1 fun _ => false, .release 1, .replace 0 fun _ => false]

theorem deserted_writer_rolls_back :
    let start : Sharing := { path := "s.json" }
    (run start desertion).writersAtWork = 2 ∧
      (run start rollback).callers = [.vanished, .done] ∧
      (run start rollback).reads = [0, 1] ∧
      (run start rollback).replaced = [1, 0] ∧
      (run start rollback).store.counter? "requests" = some 1 ∧
      (run start rollback).files.read "s.json" = .ok (Bytes.ofText "[]") := by
  decide +kernel

end Sharing
end Snapshot
end Telemetry
