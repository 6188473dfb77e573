import Telemetry.Proofs.Metric.RoundTrip
import Telemetry.Proofs.Snapshot
import Telemetry.Proofs.Store.Listing

/-!
# A store that is saved and loaded again

A snapshot brings back every counter, and every gauge that is finite, under its
name.  The value of a gauge is what a reader makes of its text, so it may have
moved a little, and a gauge that is not finite is lost.
-/

namespace Telemetry

namespace Update

/-- The update that is loaded from the metric of an update. -/
def readBack? : Update -> Option Update
  | .gauge name value => (Json.readBack? value).map (.gauge name)
  | .counter name delta => some (.counter name delta)

@[simp] theorem readBack?_gauge (name : String) (value : Binary64) :
    (gauge name value).readBack? = (Json.readBack? value).map (gauge name) := rfl

@[simp] theorem readBack?_counter (name : String) (delta : Int64) :
    (counter name delta).readBack? = some (counter name delta) := rfl

theorem toOption_toUpdate_readBack (update : Update) :
    update.toMetric.readBack.toUpdate.toOption = update.readBack? := by
  cases update with
  | gauge name value =>
      rw [readBack?_gauge, toMetric, Metric.readBack, Metric.toUpdate]
      dsimp only
      rw [MetricKind.ofName?_name, Option.bind_some]
      cases Json.readBack? value <;> rfl
  | counter name delta =>
      rw [readBack?_counter, toMetric, Metric.readBack, Metric.toUpdate]
      dsimp only
      rw [MetricKind.ofName?_name]
      rfl

/-- What a loaded update sets a gauge to. -/
theorem bind_value?_readBack? (update : Update) (name : String) :
    update.readBack?.bind (value? name) = (update.value? name).bind Json.readBack? := by
  cases update with
  | gauge other value =>
      rw [readBack?_gauge]
      by_cases same : other = name
      · rw [value?, if_pos same, Option.bind_some]
        cases Json.readBack? value <;> simp [value?, same]
      · rw [value?, if_neg same, Option.bind_none]
        cases Json.readBack? value <;> simp [value?, same]
  | counter other delta => rfl

/-- What a loaded update adds to a counter. -/
theorem bind_delta?_readBack? (update : Update) (name : String) :
    update.readBack?.bind (delta? name) = update.delta? name := by
  cases update with
  | gauge other value =>
      rw [readBack?_gauge]
      cases Json.readBack? value <;> rfl
  | counter other delta => rfl

end Update

namespace Store

/-- The store that is loaded from the snapshot of a store. -/
def readBack (store : Store) : Store where
  gauges := store.gauges.filterMap fun _ value => Json.readBack? value
  counters := store.counters

theorem gauge?_readBack (store : Store) (name : String) :
    store.readBack.gauge? name = (store.gauge? name).bind Json.readBack? :=
  Std.ExtTreeMap.getElem?_filterMap'

/-- A store comes back exactly if each of its gauges does. -/
theorem readBack_eq_self_iff (store : Store) :
    store.readBack = store ↔
      ∀ name value, store.gauge? name = some value -> Json.readBack? value = some value := by
  constructor
  · intro same name value held
    have back := store.gauge?_readBack name
    rw [same, held] at back
    exact back.symm
  · intro each
    refine ext_lookup (fun name => ?_) (fun _ => rfl)
    rw [gauge?_readBack]
    cases held : store.gauge? name with
    | none => rfl
    | some value => exact each name value held

/-- As many metrics come back as there are exactly if each gauge is finite. -/
theorem size_readBack_eq_iff (store : Store) :
    store.readBack.size = store.size ↔
      ∀ name value, store.gauge? name = some value -> value.isFinite = true := by
  have sizes : store.readBack.size = store.size ↔
      store.readBack.gauges.size = store.gauges.size := by
    unfold size
    exact Nat.add_right_cancel_iff
  rw [sizes, readBack, Std.ExtTreeMap.size_filterMap_eq_size_iff]
  constructor
  · intro each name value held
    obtain ⟨present, isValue⟩ := Std.ExtTreeMap.getElem?_eq_some_iff.mp held
    have back := each name present
    rwa [isValue, Json.isSome_readBack?_iff] at back
  · intro finite name present
    rw [Json.isSome_readBack?_iff]
    exact finite name _ (Std.ExtTreeMap.getElem?_eq_some_iff.mpr ⟨present, rfl⟩)

namespace Listing

variable {store : Store} (listing : Listing store)

/-- The updates that are loaded from a listing. -/
theorem validUpdates_readBack :
    Snapshot.validUpdates (listing.metrics.map Metric.readBack) =
      (listing.gaugeUpdates ++ listing.counterUpdates).filterMap Update.readBack? := by
  unfold Snapshot.validUpdates metrics
  rw [List.map_map, List.filterMap_map]
  congr 1
  funext update
  exact update.toOption_toUpdate_readBack

/-- They set each gauge that comes back, and set it once. -/
theorem filterMap_value?_readBack (name : String) :
    (Snapshot.validUpdates (listing.metrics.map Metric.readBack)).filterMap (Update.value? name) =
      (store.readBack.gauge? name).toList := by
  rw [validUpdates_readBack, List.filterMap_filterMap, gauge?_readBack]
  simp only [Update.bind_value?_readBack?]
  rw [← List.filterMap_filterMap, filterMap_value?]
  cases store.gauge? name with
  | none => rfl
  | some value =>
      rw [Option.bind_some, Option.toList_some]
      cases isBack : Json.readBack? value with
      | none => rw [List.filterMap_cons_none isBack]; rfl
      | some back => rw [List.filterMap_cons_some isBack]; rfl

/-- They add to each counter once. -/
theorem filterMap_delta?_readBack (name : String) :
    (Snapshot.validUpdates (listing.metrics.map Metric.readBack)).filterMap (Update.delta? name) =
      (store.readBack.counter? name).toList := by
  rw [validUpdates_readBack, List.filterMap_filterMap]
  simp only [Update.bind_delta?_readBack?]
  exact listing.filterMap_delta? name

/-- They make up the store that is loaded. -/
theorem applyAll_readBack :
    empty.applyAll (Snapshot.validUpdates (listing.metrics.map Metric.readBack)) =
      store.readBack := by
  refine ext_lookup (fun name => ?_) (fun name => ?_)
  · rw [gauge?_applyAll_of_toList (listing.filterMap_value?_readBack name)]
    exact Option.or_none
  · rw [counter?_applyAll_of_toList (listing.filterMap_delta?_readBack name)]
    cases store.readBack.counter? name with
    | none => rfl
    | some delta => exact congrArg some (Int64.zero_add delta)

/-- There are as many of them as there are metrics in it. -/
theorem length_readBack :
    (Snapshot.validUpdates (listing.metrics.map Metric.readBack)).length =
      store.readBack.size := by
  have gauges : (listing.gaugeUpdates.filterMap Update.readBack?).length =
      store.readBack.gauges.size := by
    unfold gaugeUpdates readBack
    rw [List.filterMap_map, ← Std.ExtTreeMap.length_toList, Std.ExtTreeMap.toList_filterMap,
      List.length_filterMap_eq_countP, List.length_filterMap_eq_countP]
    simp only [Function.comp_apply, Update.readBack?_gauge, Option.isSome_map]
    exact listing.gauges_perm.countP_eq _
  have counters : (listing.counterUpdates.filterMap Update.readBack?).length =
      store.readBack.counters.size := by
    unfold counterUpdates readBack
    rw [List.filterMap_map, ← Std.ExtTreeMap.length_toList, List.length_filterMap_eq_countP]
    simp only [Function.comp_apply, Update.readBack?_counter, Option.isSome_some]
    rw [List.countP_true, listing.counters_perm.length_eq]
  rw [validUpdates_readBack, List.filterMap_append, List.length_append, gauges, counters]
  rfl

end Listing
end Store

namespace Snapshot

open Json

/-- The store that is loaded into an empty one from the snapshot of a store, with its count. -/
structure IsRestored (store : Store) (count : Nat) (loaded : Store) : Prop where
  /-- Counters come back. -/
  counter : ∀ name, loaded.counter? name = store.counter? name
  /-- Gauges come back as what a reader makes of their texts. -/
  gauge : ∀ name, loaded.gauge? name = (store.gauge? name).bind readBack?
  /-- A finite gauge stays close. -/
  close : ∀ name value, store.gauge? name = some value -> value.isFinite = true ->
    ∃ back, loaded.gauge? name = some back ∧ IsClose back value
  /-- A gauge that is not finite is lost. -/
  lost : ∀ name value, store.gauge? name = some value -> value.isFinite = false ->
    loaded.gauge? name = none
  /-- The count is the number of metrics that have been loaded. -/
  counted : count = loaded.size
  /-- It is the number of metrics that have been saved exactly if all gauges are finite. -/
  complete : count = store.size ↔
    ∀ name value, store.gauge? name = some value -> value.isFinite = true
  /-- The store comes back exactly if each of its gauges does. -/
  same : loaded = store ↔
    ∀ name value, store.gauge? name = some value -> readBack? value = some value
  /-- The store comes back if the decimals of its gauges are short. -/
  short :
    (∀ name value, store.gauge? name = some value -> IsWrittenShort value) -> loaded = store

theorem isRestored_readBack (store : Store) :
    IsRestored store store.readBack.size store.readBack where
  counter := fun _ => rfl
  gauge := store.gauge?_readBack
  close := by
    intro name value held finite
    obtain ⟨back, isBack, -⟩ := exists_readBack? finite
    refine ⟨back, ?_, isClose_of_readBack? isBack⟩
    rw [Store.gauge?_readBack, held]
    exact isBack
  lost := by
    intro name value held notFinite
    rw [Store.gauge?_readBack, held]
    exact readBack?_of_not_finite notFinite
  counted := rfl
  complete := store.size_readBack_eq_iff
  same := store.readBack_eq_self_iff
  short := fun short => store.readBack_eq_self_iff.mpr fun name value held =>
    readBack?_of_isWrittenShort (short name value held)

/-- What is loaded from a file with the metrics of a store. -/
theorem load_of_read
    {store : Store} {tree : Files.Tree} {path : String}
    (listing : store.Listing)
    (read : tree.read path = .ok (content listing.metrics)) :
    load tree path Store.empty = .ok (store.readBack.size, store.readBack) := by
  unfold load
  rw [read]
  dsimp only
  rw [content, Metric.listOfJson_listJson]
  dsimp only
  rw [listing.length_readBack, listing.applyAll_readBack]

/-- However a store lists its metrics, a snapshot of it can be saved where a file can be written,
and every snapshot of it that was saved can be loaded. -/
theorem saved_store_is_restored {store : Store} (listing : store.Listing) (path : String) :
    (∀ tree location, CanWrite tree path location -> (save tree path listing.metrics).2 = .ok ()) ∧
      ∀ fails tree saved, saveWith fails tree path listing.metrics = (saved, .ok ()) ->
        ∃ count loaded, load saved path Store.empty = .ok (count, loaded) ∧
          IsRestored store count loaded := by
  constructor
  · intro tree location writable
    exact (save_of_canWrite writable _).1
  · intro fails tree saved isSaved
    exact ⟨_, _, load_of_read listing (read_of_saveWith isSaved), isRestored_readBack store⟩

/-- Two accepted gauges of which one is changed by a snapshot and the other one is lost. -/
theorem acceptedGauges_not_restored :
    let updates := [Update.gauge "load" ⟨0x403f3eca06faea82⟩, .gauge "idle" Binary64.notANumber]
    let store := Store.empty.applyAll updates
    Update.parse "gauge" "load" "31.245270191439438" = .ok (.gauge "load" ⟨0x403f3eca06faea82⟩) ∧
      Update.parse "gauge" "idle" "NaN" = .ok (.gauge "idle" Binary64.notANumber) ∧
      store.size = 2 ∧
      ∃ saved loaded, save Files.Tree.empty "s.json" store.metrics = (saved, .ok ()) ∧
        load saved "s.json" Store.empty = .ok (1, loaded) ∧
        loaded.gauge? "load" = some ⟨0x403f3eca06faea83⟩ ∧
        loaded.gauge? "idle" = none := by
  intro updates store
  have writable : CanWrite Files.Tree.empty "s.json" ["home", "s.json"] := by
    refine ⟨⟨false, ["s.json"], false⟩, Files.Tree.empty, ["home"], ?_, ?_, ?_, ?_⟩
    · decide +kernel
    · rfl
    · decide +kernel
    · decide +kernel
  have result := (save_of_canWrite writable store.metrics).1
  have count : store.readBack.size = 1 := by decide +kernel
  refine ⟨by decide +kernel, by decide +kernel, by decide +kernel, _, store.readBack,
    Prod.ext rfl result, ?_, by decide +kernel, by decide +kernel⟩
  rw [← count]
  exact load_of_read (Store.Listing.byName store) (read_of_saveWith (Prod.ext rfl result))

end Snapshot
end Telemetry
