import Telemetry.Proofs.Snapshot.RoundTrip

/-!
# Loading a snapshot into any store

Loading is all or nothing as far as the file goes: what cannot be read, or is
no list of metrics, changes nothing.  Within a list it goes on: a metric that is
no update is skipped, wherever it stands, and the others are applied in order.
So the snapshot of one store is added to another one, whatever the order in
which it was written.
-/

namespace Telemetry

namespace Store

/-- As many metrics come back from a snapshot as there are counters and finite gauges. -/
theorem size_readBack (store : Store) :
    store.readBack.size =
      store.counters.size + store.gauges.toList.countP fun entry => entry.2.isFinite := by
  have gauges : store.readBack.gauges.size =
      store.gauges.toList.countP fun entry => entry.2.isFinite := by
    unfold readBack
    rw [← Std.ExtTreeMap.length_toList, Std.ExtTreeMap.toList_filterMap,
      List.length_filterMap_eq_countP]
    refine List.countP_congr fun entry _ => ?_
    rw [Option.isSome_map]
    exact Json.isSome_readBack?_iff entry.2
  rw [size, gauges, Nat.add_comm]
  rfl

/-- A store into which the snapshot of another one was loaded. -/
def takeIn (store source : Store) : Store :=
  store.applyAll source.readBack.updates

theorem gauge?_takeIn (store source : Store) (name : String) :
    (store.takeIn source).gauge? name =
      (source.readBack.gauge? name).or (store.gauge? name) :=
  gauge?_applyAll_of_toList ((Listing.byName source.readBack).filterMap_value? name) store

theorem counter?_takeIn (store source : Store) (name : String) :
    (store.takeIn source).counter? name =
      ((source.counter? name).map ((store.counter? name).getD 0 + ·)).or (store.counter? name) :=
  counter?_applyAll_of_toList ((Listing.byName source.readBack).filterMap_delta? name) store

/-- Every listing of a store is loaded as the same one. -/
theorem Listing.applyAll_validUpdates {source : Store} (listing : Listing source) (store : Store) :
    store.applyAll (Snapshot.validUpdates (listing.metrics.map Metric.readBack)) =
      store.takeIn source := by
  refine ext_lookup (fun name => ?_) (fun name => ?_)
  · rw [gauge?_applyAll_of_toList (listing.filterMap_value?_readBack name), gauge?_takeIn]
  · rw [counter?_applyAll_of_toList (listing.filterMap_delta?_readBack name), counter?_takeIn]
    rfl

end Store

namespace Snapshot

/-! ## One metric after the other -/

/-- Goes through the metrics of a snapshot: applies and counts those that are updates, and skips the
others. -/
def applyEach (store : Store) (count : Nat) : List Metric -> Store × Nat
  | [] => (store, count)
  | metric :: rest =>
      match metric.toUpdate with
      | .ok update => applyEach (store.apply update) (count + 1) rest
      | .error _ => applyEach store count rest

/-- Exactly the metrics that are updates are applied, in order, and counted. -/
theorem applyEach_eq (store : Store) (count : Nat) (metrics : List Metric) :
    applyEach store count metrics =
      (store.applyAll (validUpdates metrics), count + (validUpdates metrics).length) := by
  induction metrics generalizing store count with
  | nil => rfl
  | cons metric rest inductionHypothesis =>
      rw [applyEach, validUpdates]
      cases isUpdate : metric.toUpdate with
      | error error =>
          rw [List.filterMap_cons_none (by rw [isUpdate]; rfl)]
          exact inductionHypothesis store count
      | ok update =>
          rw [List.filterMap_cons_some (by rw [isUpdate]; rfl), List.length_cons,
            Store.applyAll_cons]
          refine (inductionHypothesis (store.apply update) (count + 1)).trans ?_
          rw [Nat.add_assoc, Nat.add_comm 1]
          rfl

/-- Loading goes on behind a metric of an unknown type and one without a value. -/
example :
    let metrics : List Metric := [⟨"a", "gauge", none, some ⟨0⟩⟩, ⟨"b", "summary", none, some ⟨0⟩⟩,
      ⟨"c", "gauge", none, none⟩, ⟨"d", "counter", some 2, none⟩]
    (applyEach Store.empty 0 metrics).2 = 2 := by
  decide

/-- The store and the result once a snapshot was loaded whose file was read with some outcome. -/
def loadFound (path : String) (found : Except Files.FileError Bytes) (store : Store) :
    Store × Except SnapshotError Nat :=
  match found with
  | .error .notFound => (store, .error (.notFound path))
  | .error error => (store, .error (.file error))
  | .ok body =>
      match Metric.listOfJson body with
      | .error fault => (store, .error (.json fault))
      | .ok metrics =>
          let (loaded, count) := applyEach store 0 metrics
          (loaded, .ok count)

/-- What loading has to do with what was found at the path of a snapshot. -/
structure IsLoaded (path : String) (found : Except Files.FileError Bytes) (before after : Store)
    (result : Except SnapshotError Nat) : Prop where
  /-- A missing file, and nothing else, is told as missing. -/
  missing : ∀ told, result = .error (.notFound told) ↔ found = .error .notFound ∧ told = path
  /-- Another failure to read the file is told as it is. -/
  unreadable : ∀ error, result = .error (.file error) ↔ found = .error error ∧ error ≠ .notFound
  /-- A content that is no list of metrics is refused with the fault in it. -/
  malformed : ∀ fault, result = .error (.json fault) ↔
    ∃ body, found = .ok body ∧ Metric.listOfJson body = .error fault
  /-- After an error the store is what it was. -/
  unchanged : ∀ error, result = .error error -> after = before
  /-- Every list of metrics is loaded, and the count is the number of those that are updates. -/
  counted : ∀ count, result = .ok count ↔
    ∃ body metrics, found = .ok body ∧ Metric.listOfJson body = .ok metrics ∧
      count = (validUpdates metrics).length
  /-- These are applied in the order of the file. -/
  applied : ∀ body metrics, found = .ok body -> Metric.listOfJson body = .ok metrics ->
    after = before.applyAll (validUpdates metrics)

theorem isLoaded_loadFound (path : String) (found : Except Files.FileError Bytes) (store : Store) :
    IsLoaded path found store (loadFound path found store).1 (loadFound path found store).2 := by
  cases found with
  | error error => cases error <;> constructor <;> grind [loadFound]
  | ok body =>
      cases read : Metric.listOfJson body with
      | error fault => constructor <;> grind [loadFound]
      | ok metrics => constructor <;> grind [loadFound, applyEach_eq]

/-- Loading goes through the metrics one by one. -/
theorem load_eq_loadFound (tree : Files.Tree) (path : String) (store : Store) :
    load tree path store =
      (loadFound path (tree.read path) store).2.map fun count =>
        (count, (loadFound path (tree.read path) store).1) := by
  unfold load loadFound
  cases tree.read path with
  | error error => cases error <;> rfl
  | ok body =>
      dsimp only
      cases Metric.listOfJson body with
      | error fault => rfl
      | ok metrics =>
          dsimp only
          rw [applyEach_eq, Nat.zero_add]
          rfl

/-- Loading fails exactly as it does when it goes through the metrics one by one. -/
theorem load_eq_error_iff
    (tree : Files.Tree) (path : String) (store : Store) (error : SnapshotError) :
    load tree path store = .error error ↔
      (loadFound path (tree.read path) store).2 = .error error := by
  rw [load_eq_loadFound]
  cases (loadFound path (tree.read path) store).2 <;> simp [Except.map]

/-- What is restored is the store after loading, whether that has failed or not. -/
theorem restore_eq_loadFound (tree : Files.Tree) (path : String) (store : Store) :
    restore tree path store = (loadFound path (tree.read path) store).1 := by
  unfold restore
  rw [load_eq_loadFound]
  cases result : (loadFound path (tree.read path) store).2 with
  | error error => exact ((isLoaded_loadFound path _ store).unchanged error result).symm
  | ok count => rfl

/-! ## Snapshots of other stores -/

/-- A store into which the snapshot of another one was loaded, with the count. -/
structure IsTakenIn (before source : Store) (count : Nat) (after : Store) : Prop where
  /-- Each counter is added, modulo the number of words of sixty-four bits. -/
  counter : ∀ name delta, source.counter? name = some delta ->
    (after.counter? name).map Int64.toInt =
      some ((((before.counter? name).getD 0).toInt + delta.toInt).bmod Int64.size)
  /-- Each finite gauge is set to the number that its text is read as. -/
  gauge : ∀ name value, source.gauge? name = some value -> value.isFinite = true ->
    ∃ number, Json.decode Json.real (Bytes.ofText (Json.numberText value)) = .ok number ∧
      after.gauge? name = some number
  /-- Every other counter stays. -/
  otherCounter : ∀ name, source.counter? name = none -> after.counter? name = before.counter? name
  /-- Every other gauge stays. -/
  otherGauge : ∀ name, (∀ value, source.gauge? name = some value -> value.isFinite = false) ->
    after.gauge? name = before.gauge? name
  /-- The count is the number of counters and finite gauges. -/
  counted :
    count = source.counters.size + source.gauges.toList.countP fun entry => entry.2.isFinite

theorem isTakenIn_takeIn (before source : Store) :
    IsTakenIn before source source.readBack.size (before.takeIn source) where
  counter := by
    intro name delta held
    rw [Store.counter?_takeIn, held]
    exact congrArg some (Int64.toInt_add _ _)
  gauge := by
    intro name value held finite
    obtain ⟨number, isBack, reads⟩ := Json.exists_readBack? finite
    refine ⟨number, reads.decode, ?_⟩
    rw [Store.gauge?_takeIn, Store.gauge?_readBack, held, Option.bind_some, isBack]
    rfl
  otherCounter := by
    intro name absent
    rw [Store.counter?_takeIn, absent]
    rfl
  otherGauge := by
    intro name lost
    have gone : source.readBack.gauge? name = none := by
      rw [Store.gauge?_readBack]
      cases held : source.gauge? name with
      | none => rfl
      | some value => exact Json.readBack?_of_not_finite (lost value held)
    rw [Store.gauge?_takeIn, gone, Option.none_or]
  counted := source.size_readBack

/-- What is loaded into a store from a file with the metrics of another one. -/
theorem loadFound_content {source : Store} (listing : source.Listing) (path : String)
    (store : Store) :
    loadFound path (.ok (content listing.metrics)) store =
      (store.takeIn source, .ok source.readBack.size) := by
  rw [loadFound, content, Metric.listOfJson_listJson]
  dsimp only
  rw [applyEach_eq, listing.applyAll_validUpdates, listing.length_readBack, Nat.zero_add]

/--
Loading refuses a file as a whole and leaves the store as it was, or applies exactly the metrics in
it that are updates, in order.  What is told as missing is a path that leads to nothing.  And the
snapshot of another store is added to this one: the outcome is the same whatever the order in which
it was written, and whatever was in its place before.
-/
theorem loaded_as_a_whole_or_not_at_all (path : String) (store : Store) :
    (∀ found, IsLoaded path found store (loadFound path found store).1
        (loadFound path found store).2) ∧
      (∀ tree : Files.Tree,
        load tree path store = (loadFound path (tree.read path) store).2.map
            (fun count => (count, restore tree path store)) ∧
          restore tree path store = (loadFound path (tree.read path) store).1 ∧
          ((∃ told, load tree path store = .error (.notFound told)) ↔ tree.IsMissing path)) ∧
      ∀ source : Store, ∃ count after, IsTakenIn store source count after ∧
        ∀ (listing : source.Listing) (fails : Stage -> Bool) (tree saved : Files.Tree),
          saveWith fails tree path listing.metrics = (saved, .ok ()) ->
            load saved path store = .ok (count, after) ∧ restore saved path store = after := by
  refine ⟨fun found => isLoaded_loadFound path found store, fun tree => ?_, fun source => ?_⟩
  · have loads := isLoaded_loadFound path (tree.read path) store
    refine ⟨?_, restore_eq_loadFound tree path store, ?_⟩
    · rw [load_eq_loadFound, restore_eq_loadFound]
    · simp only [← Files.Tree.read_eq_notFound_iff, load_eq_error_iff, loads.missing]
      exact ⟨fun ⟨_, missing, _⟩ => missing, fun missing => ⟨path, missing, rfl⟩⟩
  · refine ⟨_, _, isTakenIn_takeIn store source, fun listing fails tree saved isSaved => ?_⟩
    have read := read_of_saveWith isSaved
    rw [load_eq_loadFound, restore_eq_loadFound, read, loadFound_content]
    exact ⟨rfl, rfl⟩

end Snapshot
end Telemetry
