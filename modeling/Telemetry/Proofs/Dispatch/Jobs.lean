import Mathlib.Data.List.Nodup
import Mathlib.Data.List.Perm.Subperm
import Telemetry.Proofs.Dispatch.Counts

/-!
# Every batch is in one place

A submitted batch is on its way to the queue, waits for room, or has entered
the queue, and never two of these at once.  What has entered is in the place or
was started, in the order in which it entered.
-/

namespace Telemetry
namespace Dispatch

variable {batch : Type}

/-! ## Batches keep their numbers -/

/-- All batches that may still enter the queue or have entered it. -/
def State.batches (state : State batch) : List (Job batch) :=
  state.arriving ++ state.pending ++ state.entered

/-- Batches are those that were submitted, and none is there twice. -/
structure Numbered (submitted : List batch) (state : State batch) : Prop where
  /-- Every submission has a fate. -/
  length : submitted.length = state.fates.length
  /-- A batch has the content that was submitted under its number. -/
  known : ∀ job ∈ state.batches, submitted[job.number]? = some job.content
  /-- No number is used twice. -/
  distinct : (state.batches.map Job.number).Nodup

namespace Numbered

variable {submitted : List batch} {state after : State batch}

/-- What makes no new batch keeps the numbers. -/
theorem of_subperm
    (numbered : Numbered submitted state)
    (length : after.fates.length = state.fates.length)
    (fewer : after.batches.Subperm state.batches) :
    Numbered submitted after where
  length := numbered.length.trans length.symm
  known := fun job present => numbered.known job (fewer.subset present)
  distinct := by
    obtain ⟨between, same, sublist⟩ := fewer
    exact (same.map Job.number).nodup_iff.mp (numbered.distinct.sublist (sublist.map Job.number))

theorem of_batches_eq
    (numbered : Numbered submitted state)
    (length : after.fates.length = state.fates.length)
    (same : after.batches = state.batches) :
    Numbered submitted after :=
  numbered.of_subperm length (same ▸ List.Subperm.refl _)

theorem batches_nodup (numbered : Numbered submitted state) : state.batches.Nodup :=
  numbered.distinct.of_map Job.number

theorem number_lt (numbered : Numbered submitted state) {job : Job batch}
    (present : job ∈ state.batches) :
    job.number < state.fates.length := by
  rw [← numbered.length]
  exact (List.getElem?_eq_some_iff.mp (numbered.known job present)).1

/-- A batch that has not entered the queue has another number than one that has. -/
theorem number_ne (numbered : Numbered submitted state) {job other : Job batch}
    (outside : job ∈ state.arriving ∨ job ∈ state.pending)
    (inside : other ∈ state.entered) :
    job.number ≠ other.number := by
  have distinct := numbered.distinct
  unfold State.batches at distinct
  rw [List.map_append] at distinct
  refine (List.nodup_append.mp distinct).2.2 _ (List.mem_map_of_mem ?_) _
    (List.mem_map_of_mem inside)
  exact List.mem_append.mpr outside

/-- A batch that waits for room is not on its way to the queue. -/
theorem pending_notMem_arriving (numbered : Numbered submitted state) {job : Job batch}
    (waits : job ∈ state.pending) :
    job ∉ state.arriving := by
  intro arrives
  have distinct := numbered.batches_nodup
  unfold State.batches at distinct
  have disjoint := (List.nodup_append.mp (List.nodup_append.mp distinct).1).2.2
  exact disjoint job arrives job waits rfl

variable [DecidableEq batch]

/-- Making room sends the batch that waited longest on its way. -/
theorem arriving_offer {waiting : List (Job batch)}
    (numbered : Numbered submitted state)
    (waits : ∀ job ∈ waiting, job ∈ state.pending) :
    (woken state.ready (waiting.head?.toList.map .entry)).filterMap Task.job? ++ waiting.tail =
      state.arriving ++ waiting := by
  cases waiting with
  | nil => rfl
  | cons next rest =>
      have absent := numbered.pending_notMem_arriving (waits next List.mem_cons_self)
      simp only [List.head?_cons, Option.toList_some, List.map_cons, List.map_nil, List.tail_cons]
      rw [filterMap_job?_woken_entry absent, List.append_assoc]
      rfl

variable {outcome : Job batch -> Outcome} {index : Nat}

theorem move
    (numbered : Numbered submitted state)
    (move : Move outcome index state after) :
    Numbered submitted after := by
  cases move with
  | take job may holds =>
      refine numbered.of_batches_eq (length_settledFates _ _ _) ?_
      unfold State.batches State.arriving
      dsimp only
      rw [filterMap_job?_woken_workers, numbered.arriving_offer (fun _ waits => waits)]
      rfl
  | pass => exact { numbered with }
  | finish job sending survives => exact { numbered with }

theorem halt
    (numbered : Numbered submitted state)
    (halt : Halt outcome index state after) :
    Numbered submitted after := by
  cases halt with
  | rest nothing => exact numbered
  | queue other idle turn => exact { numbered with }
  | await may empty proceeding => exact { numbered with }
  | exit may empty stopping =>
      refine numbered.of_batches_eq rfl ?_
      unfold State.batches State.arriving
      dsimp only
      rw [filterMap_job?_woken_workers]
  | block job sending => exact { numbered with }
  | crash job sending crashes others => exact { numbered with }
  | crashLast job sending crashes alone =>
      refine numbered.of_subperm (List.length_map _) (List.Sublist.subperm ?_)
      unfold State.batches
      exact ((List.nil_sublist _).append_left _).append_right _

theorem begin
    (numbered : Numbered submitted state) :
    Numbered submitted { state with ready := state.ready.erase (.worker index) } := by
  refine numbered.of_batches_eq rfl ?_
  unfold State.batches State.arriving
  dsimp only
  rw [filterMap_job?_erase]

theorem admission
    (numbered : Numbered submitted state)
    (admission : Admission state after) :
    Numbered submitted after := by
  have dropped (job : Job batch) (others : List (Job batch)) :
      (state.arriving.erase job ++ others).Subperm (state.arriving ++ others) :=
    (List.erase_sublist.append_right others).subperm
  have arrived {job : Job batch} (ready : .entry job ∈ state.ready) :
      state.arriving.Perm ([job] ++ state.arriving.erase job) :=
    List.perm_cons_erase ((state.mem_arriving job).mpr ready)
  cases admission with
  | dismiss job ready decided =>
      refine numbered.of_subperm rfl ?_
      unfold State.batches State.arriving
      dsimp only
      rw [filterMap_job?_erase, ← State.arriving, List.append_assoc, List.append_assoc]
      exact dropped job _
  | refuse job ready awaited deserted =>
      refine numbered.of_subperm (length_settledFates _ _ _) ?_
      unfold State.batches State.arriving
      dsimp only
      rw [filterMap_job?_erase, ← State.arriving, List.append_assoc, List.append_assoc]
      exact dropped job _
  | enter job ready awaited staffed room =>
      refine numbered.of_subperm rfl (List.Perm.subperm (List.perm_iff_count.mpr ?_))
      intro other
      have counts := (arrived ready).count_eq other
      unfold State.batches State.arriving at *
      dsimp only
      rw [State.filterMap_job?_woken_receiverTasks, filterMap_job?_erase]
      simp only [List.count_append] at counts ⊢
      omega
  | line job ready awaited staffed full =>
      refine numbered.of_subperm rfl (List.Perm.subperm (List.perm_iff_count.mpr ?_))
      intro other
      have counts := (arrived ready).count_eq other
      unfold State.batches State.arriving at *
      dsimp only
      rw [filterMap_job?_erase]
      simp only [List.count_append] at counts ⊢
      omega

/-- A batch that is submitted gets the next number. -/
theorem submit {content : batch}
    (numbered : Numbered submitted state)
    (fates : after.fates = state.fates ++ [.waiting])
    (ready : after.ready = woken state.ready [.entry ⟨state.fates.length, content⟩])
    (pending : after.pending = state.pending)
    (entered : after.entered = state.entered) :
    Numbered (submitted ++ [content]) after := by
  have new : ∀ job ∈ state.batches, job.number ≠ state.fates.length :=
    fun job present => Nat.ne_of_lt (numbered.number_lt present)
  have absent : ⟨state.fates.length, content⟩ ∉ state.arriving := by
    intro arrives
    refine new ⟨state.fates.length, content⟩ ?_ rfl
    unfold State.batches
    exact List.mem_append_left _ (List.mem_append_left _ arrives)
  have same : after.batches.Perm (⟨state.fates.length, content⟩ :: state.batches) := by
    unfold State.batches State.arriving
    rw [ready, pending, entered, filterMap_job?_woken_entry absent]
    simp only [List.append_assoc]
    exact List.perm_middle
  constructor
  case length =>
    rw [fates, List.length_append, List.length_append, numbered.length]
    rfl
  case known =>
    intro job present
    obtain rfl | old := List.mem_cons.mp (same.mem_iff.mp present)
    · rw [← numbered.length]
      exact List.getElem?_concat_length
    · have found := numbered.known job old
      rw [List.getElem?_append_left (List.getElem?_eq_some_iff.mp found).1]
      exact found
  case distinct =>
    rw [(same.map Job.number).nodup_iff, List.map_cons, List.nodup_cons]
    refine ⟨?_, numbered.distinct⟩
    intro used
    obtain ⟨job, present, equal⟩ := List.mem_map.mp used
    exact new job present equal

theorem change {contents : List batch}
    (numbered : Numbered submitted state)
    (change : Change state contents after) :
    Numbered (submitted ++ contents) after := by
  cases change with
  | submit content proceeding => exact numbered.submit rfl rfl rfl rfl
  | giveUp number awaited unpromised =>
      rw [List.append_nil]
      refine numbered.of_subperm (length_settledFates _ _ _) (List.Sublist.subperm ?_)
      unfold State.batches
      exact (List.filter_sublist.append_left _).append_right _
  | decline job awaited promised =>
      rw [List.append_nil]
      refine numbered.of_subperm (length_settledFates _ _ _) (List.Sublist.subperm ?_)
      unfold State.batches State.arriving
      dsimp only
      rw [numbered.arriving_offer (fun _ waits => List.mem_of_mem_filter waits)]
      exact (List.filter_sublist.append_left _).append_right _
  | release count permits =>
      rw [List.append_nil]
      refine numbered.of_batches_eq rfl ?_
      unfold State.batches State.arriving
      dsimp only
      rw [filterMap_job?_woken_workers]
  | finish index present =>
      rw [List.append_nil]
      refine numbered.of_batches_eq rfl ?_
      unfold State.batches State.arriving
      dsimp only
      rw [← filterMap_job?_woken_workers state.ready [index]]
      rfl
  | stop proceeding settled =>
      rw [List.append_nil]
      refine numbered.of_batches_eq rfl ?_
      unfold State.batches State.arriving
      dsimp only
      rw [State.filterMap_job?_woken_receiverTasks]

/-- Every step numbers what it submits and makes no other batch. -/
theorem step {contents : List batch}
    (numbered : Numbered submitted state)
    (step : Step outcome state contents after) :
    Numbered (submitted ++ contents) after := by
  cases step with
  | stay =>
      rw [List.append_nil]
      exact numbered
  | goes ready goes =>
      rw [List.append_nil]
      exact goes.preserves _ _ numbered.begin Numbered.move Numbered.halt
  | admits admission =>
      rw [List.append_nil]
      exact numbered.admission admission
  | changes change => exact numbered.change change

omit [DecidableEq batch] in
theorem fresh (limit : Nat) : Numbered [] (State.fresh limit : State batch) := by
  have empty : (State.fresh limit : State batch).batches = [] := by
    unfold State.batches State.arriving State.fresh
    simp [List.filterMap_map, Function.comp_def, Task.job?]
  constructor
  case length => rfl
  case known => simp [empty]
  case distinct => simp [empty]

end Numbered
end Dispatch
end Telemetry
