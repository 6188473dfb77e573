import Mathlib.Data.List.Basic
import Telemetry.Proofs.Store.History
import Telemetry.Proofs.Text.Encoding

/-!
# What can be seen of a store

The maps of a store list their entries in an order of their own.  Whatever it
is, every entry is listed once, gauges before counters, and the sorted rows are
the same.  So all that can be seen of a store agrees with the operations that
led to it.
-/

namespace Telemetry

namespace Update

/-- The row of an update: its name and the text of its value. -/
def row (update : Update) : String × String :=
  (update.name, update.valueText)

end Update

namespace Store

/-- The entries of a store, each once, in any order in which its maps may list them. -/
structure Listing (store : Store) where
  /-- The gauges. -/
  gauges : List (String × Binary64)
  /-- The counters. -/
  counters : List (String × Int64)
  gauges_perm : gauges.Perm store.gauges.toList
  counters_perm : counters.Perm store.counters.toList

/-! ## Operations -/

/-- What can be done to a store. -/
inductive Operation where
  /-- Sets a gauge. -/
  | setGauge (name : String) (value : Binary64)
  /-- Adds to a counter. -/
  | addCounter (name : String) (delta : Int64)
  /-- Makes an update of either kind. -/
  | apply (update : Update)

namespace Operation

/-- The store after an operation. -/
def perform (store : Store) : Operation -> Store
  | .setGauge name value => store.setGauge name value
  | .addCounter name delta => store.addCounter name delta
  | .apply update => store.apply update

/-- The update that an operation amounts to. -/
def update : Operation -> Update
  | .setGauge name value => .gauge name value
  | .addCounter name delta => .counter name delta
  | .apply update => update

@[simp] theorem perform_eq_apply (store : Store) (operation : Operation) :
    operation.perform store = store.apply operation.update := by
  cases operation <;> rfl

/-- What an operation sets the gauge of a name to, if it sets it at all. -/
def value? (name : String) (operation : Operation) : Option Binary64 :=
  operation.update.value? name

/-- What an operation adds to the counter of a name, if it adds to it at all. -/
def delta? (name : String) (operation : Operation) : Option Int64 :=
  operation.update.delta? name

/-- Whether an operation sets a gauge. -/
def setsGauge (operation : Operation) : Bool :=
  operation.update.setsGauge

end Operation

/-- The store after operations on the empty one. -/
def after (operations : List Operation) : Store :=
  operations.foldl Operation.perform empty

theorem after_eq_applyAll (operations : List Operation) :
    after operations = empty.applyAll (operations.map Operation.update) := by
  have same : Operation.perform = fun store operation => store.apply operation.update := by
    funext store operation
    exact operation.perform_eq_apply store
  rw [after, applyAll, List.foldl_map, same]

theorem gauge?_after (operations : List Operation) (name : String) :
    (after operations).gauge? name = (operations.filterMap (Operation.value? name)).getLast? := by
  rw [after_eq_applyAll, gauge?_applyAll, List.filterMap_map]
  exact Option.or_none

theorem counter?_after (operations : List Operation) (name : String) :
    (after operations).counter? name =
      increased none (operations.filterMap (Operation.delta? name)) := by
  rw [after_eq_applyAll, counter?_applyAll, List.filterMap_map]
  rfl

/-- A counter wraps around, whatever happens to the gauge of its name. -/
example (value : Binary64) :
    (after [.addCounter "n" Int64.maxValue, .setGauge "n" value, .addCounter "n" 1]).counter? "n" =
      some Int64.minValue := by
  rw [counter?_after]
  rfl

/-- Operations that leave the gauges alone may be left out as far as gauges go. -/
theorem gauges_after_filter (operations : List Operation) :
    (after (operations.filter Operation.setsGauge)).gauges = (after operations).gauges := by
  apply Std.ExtTreeMap.ext_getElem?
  intro name
  change gauge? _ name = gauge? _ name
  rw [gauge?_after, gauge?_after, List.filterMap_filter]
  congr 2
  funext operation
  cases sets : operation.setsGauge with
  | true => rfl
  | false => exact (Update.value?_of_not_setsGauge sets name).symm

/-- Operations that leave the counters alone may be left out as far as counters go. -/
theorem counters_after_filter (operations : List Operation) :
    (after (operations.filter fun operation => !operation.setsGauge)).counters =
      (after operations).counters := by
  apply Std.ExtTreeMap.ext_getElem?
  intro name
  change counter? _ name = counter? _ name
  rw [counter?_after, counter?_after, List.filterMap_filter]
  congr 2
  funext operation
  cases sets : operation.setsGauge with
  | true => exact (Update.delta?_of_setsGauge sets name).symm
  | false => rfl

/-! ## Rows -/

/-- A row comes before or with another, by the bytes of its name and then by those of its text. -/
def RowInOrder (left right : String × String) : Prop :=
  Bytes.ofText left.1 < Bytes.ofText right.1 ∨
    (left.1 = right.1 ∧ Bytes.ofText left.2 ≤ Bytes.ofText right.2)

theorem rowAtMost_iff (left right : String × String) :
    rowAtMost left right = true ↔ left.1 < right.1 ∨ (left.1 = right.1 ∧ left.2 ≤ right.2) := by
  simp [rowAtMost]

theorem rowInOrder_iff (left right : String × String) :
    RowInOrder left right ↔ rowAtMost left right = true := by
  rw [rowAtMost_iff, RowInOrder, Bytes.ofText_lt_iff, Bytes.ofText_le_iff]

theorem rowAtMost_trans
    {first second third : String × String}
    (before : rowAtMost first second = true)
    (after : rowAtMost second third = true) :
    rowAtMost first third = true := by
  rw [rowAtMost_iff] at before after ⊢
  rcases before with less | ⟨same, atMost⟩
  · rcases after with lessToo | ⟨sameToo, -⟩
    · exact Or.inl (String.lt_trans less lessToo)
    · exact Or.inl (sameToo ▸ less)
  · rcases after with lessToo | ⟨sameToo, atMostToo⟩
    · exact Or.inl (same ▸ lessToo)
    · exact Or.inr ⟨same.trans sameToo, String.le_trans atMost atMostToo⟩

theorem rowAtMost_total (first second : String × String) :
    (rowAtMost first second || rowAtMost second first) = true := by
  rw [Bool.or_eq_true, rowAtMost_iff, rowAtMost_iff]
  rcases Std.lt_trichotomy first.1 second.1 with less | same | more
  · exact Or.inl (Or.inl less)
  · rcases String.le_total first.2 second.2 with atMost | atLeast
    · exact Or.inl (Or.inr ⟨same, atMost⟩)
    · exact Or.inr (Or.inr ⟨same.symm, atLeast⟩)
  · exact Or.inr (Or.inl more)

theorem rowAtMost_antisymm
    {first second : String × String}
    (before : rowAtMost first second = true)
    (after : rowAtMost second first = true) :
    first = second := by
  rw [rowAtMost_iff] at before after
  rcases before with less | ⟨same, atMost⟩
  · rcases after with more | ⟨same, -⟩
    · exact absurd more (String.lt_asymm less)
    · exact absurd (same ▸ less) (String.lt_irrefl _)
  · rcases after with more | ⟨-, atLeast⟩
    · exact absurd (same ▸ more) (String.lt_irrefl _)
    · exact Prod.ext same (String.le_antisymm atMost atLeast)

theorem pairwise_mergeSort_rowAtMost (rows : List (String × String)) :
    (rows.mergeSort rowAtMost).Pairwise fun left right => rowAtMost left right = true :=
  @List.pairwise_mergeSort _ rowAtMost (fun _ _ _ => rowAtMost_trans) rowAtMost_total rows

/-- Sorting forgets the order in which rows came. -/
theorem mergeSort_rowAtMost_eq
    {first second : List (String × String)}
    (perm : first.Perm second) :
    first.mergeSort rowAtMost = second.mergeSort rowAtMost := by
  have samePerm : (first.mergeSort rowAtMost).Perm (second.mergeSort rowAtMost) :=
    (List.mergeSort_perm first rowAtMost).trans
      (perm.trans (List.mergeSort_perm second rowAtMost).symm)
  refine List.Perm.eq_of_pairwise ?_ (pairwise_mergeSort_rowAtMost first)
    (pairwise_mergeSort_rowAtMost second) samePerm
  intro left right _ _ before after
  exact rowAtMost_antisymm before after

/-! ## Listings -/

/-- However the entries of a map are ordered, the map has one entry at most under each name. -/
theorem filter_entries
    {entries : List (String × α)} {map : Std.ExtTreeMap String α}
    (perm : entries.Perm map.toList)
    (name : String) :
    entries.filter (fun entry => entry.1 == name) =
      (map[name]?.map fun value => (name, value)).toList := by
  have distinct : entries.Nodup := by
    refine perm.nodup_iff.mpr (map.distinct_keys_toList.imp ?_)
    rintro first second differ rfl
    exact differ Std.compare_self
  have found (entry : String × α) :
      entry ∈ entries.filter (fun entry => entry.1 == name) ↔
        entry.1 = name ∧ map[name]? = some entry.2 := by
    rw [List.mem_filter, perm.mem_iff, Std.ExtTreeMap.mem_toList_iff_getElem?_eq_some,
      beq_iff_eq]
    constructor
    · rintro ⟨present, rfl⟩
      exact ⟨rfl, present⟩
    · rintro ⟨rfl, present⟩
      exact ⟨present, rfl⟩
  cases present : map[name]? with
  | none =>
      refine List.eq_nil_iff_forall_not_mem.mpr fun entry isFound => ?_
      have held := ((found entry).mp isFound).2
      rw [present] at held
      cases held
  | some value =>
      refine List.perm_singleton.mp ((List.perm_ext_iff_of_nodup (distinct.filter _)
        (List.pairwise_singleton _ _)).mpr fun entry => ?_)
      rw [found, present, List.mem_singleton, Option.some_inj]
      constructor
      · rintro ⟨rfl, rfl⟩
        rfl
      · rintro rfl
        exact ⟨rfl, rfl⟩

namespace Listing

variable {store : Store} (listing : Listing store)

/-- The listing in the order of names. -/
def byName (store : Store) : Listing store where
  gauges := store.gauges.toList
  counters := store.counters.toList
  gauges_perm := .refl _
  counters_perm := .refl _

/-- The gauges as updates. -/
def gaugeUpdates : List Update :=
  listing.gauges.map fun entry => .gauge entry.1 entry.2

/-- The counters as updates. -/
def counterUpdates : List Update :=
  listing.counters.map fun entry => .counter entry.1 entry.2

/-- All metrics, gauges before counters. -/
def metrics : List Metric :=
  (listing.gaugeUpdates ++ listing.counterUpdates).map Update.toMetric

/-- The sorted rows of all metrics. -/
def rows : List (String × String) :=
  ((listing.gaugeUpdates ++ listing.counterUpdates).map Update.row).mergeSort rowAtMost

theorem updates_perm :
    (listing.gaugeUpdates ++ listing.counterUpdates).Perm store.updates :=
  (listing.gauges_perm.map _).append (listing.counters_perm.map _)

/-- The rows are the same for every listing. -/
theorem rows_eq : listing.rows = store.rows :=
  mergeSort_rowAtMost_eq (listing.updates_perm.map Update.row)

theorem length_metrics : listing.metrics.length = store.size := by
  unfold metrics size
  rw [List.length_map, listing.updates_perm.length_eq, updates, List.length_append,
    List.length_map, List.length_map, Std.ExtTreeMap.length_toList, Std.ExtTreeMap.length_toList]

theorem filter_gaugeUpdates (name : String) :
    listing.gaugeUpdates.filter (fun update => update.name == name) =
      ((store.gauge? name).map (Update.gauge name)).toList := by
  have entries := filter_entries listing.gauges_perm name
  unfold gaugeUpdates gauge?
  rw [List.filter_map]
  change List.map _ (listing.gauges.filter fun entry => entry.1 == name) = _
  rw [entries]
  cases store.gauges[name]? <;> rfl

theorem filter_counterUpdates (name : String) :
    listing.counterUpdates.filter (fun update => update.name == name) =
      ((store.counter? name).map (Update.counter name)).toList := by
  have entries := filter_entries listing.counters_perm name
  unfold counterUpdates counter?
  rw [List.filter_map]
  change List.map _ (listing.counters.filter fun entry => entry.1 == name) = _
  rw [entries]
  cases store.counters[name]? <;> rfl

/-- Updates of other names may be left out as far as one name goes. -/
theorem filterMap_filter_name
    {change : Update -> Option α} {name : String}
    (spares : ∀ update, update.name ≠ name -> change update = none)
    (updates : List Update) :
    (updates.filter fun update => update.name == name).filterMap change =
      updates.filterMap change := by
  rw [List.filterMap_filter]
  refine List.filterMap_congr fun update _ => ?_
  by_cases same : update.name = name
  · rw [if_pos (beq_iff_eq.mpr same)]
  · rw [if_neg (mt beq_iff_eq.mp same), spares update same]

/-- A listing sets each gauge once. -/
theorem filterMap_value? (name : String) :
    (listing.gaugeUpdates ++ listing.counterUpdates).filterMap (Update.value? name) =
      (store.gauge? name).toList := by
  have spares : ∀ update, update.name ≠ name -> Update.value? name update = none := by
    rintro (⟨other, value⟩ | ⟨other, delta⟩) differs
    · exact if_neg differs
    · rfl
  have others : listing.counterUpdates.filterMap (Update.value? name) = [] := by
    unfold counterUpdates
    rw [List.filterMap_map]
    exact List.filterMap_eq_nil_iff.mpr fun _ _ => rfl
  rw [List.filterMap_append, others, List.append_nil, ← filterMap_filter_name spares,
    filter_gaugeUpdates]
  cases store.gauge? name <;> simp [Update.value?]

/-- A listing adds to each counter once. -/
theorem filterMap_delta? (name : String) :
    (listing.gaugeUpdates ++ listing.counterUpdates).filterMap (Update.delta? name) =
      (store.counter? name).toList := by
  have spares : ∀ update, update.name ≠ name -> Update.delta? name update = none := by
    rintro (⟨other, value⟩ | ⟨other, delta⟩) differs
    · rfl
    · exact if_neg differs
  have others : listing.gaugeUpdates.filterMap (Update.delta? name) = [] := by
    unfold gaugeUpdates
    rw [List.filterMap_map]
    exact List.filterMap_eq_nil_iff.mpr fun _ _ => rfl
  rw [List.filterMap_append, others, List.nil_append, ← filterMap_filter_name spares,
    filter_counterUpdates]
  cases store.counter? name <;> simp [Update.delta?]

/-- A listing shows each gauge once and then each counter once, and rows made from it are sorted. -/
structure IsComplete : Prop where
  /-- Gauges come before counters. -/
  metrics : listing.metrics = (listing.gaugeUpdates ++ listing.counterUpdates).map Update.toMetric
  /-- Each gauge is listed once, with its value. -/
  gauges : ∀ name, listing.gaugeUpdates.filter (fun update => update.name == name) =
    ((store.gauge? name).map (Update.gauge name)).toList
  /-- Each counter is listed once, with its value. -/
  counters : ∀ name, listing.counterUpdates.filter (fun update => update.name == name) =
    ((store.counter? name).map (Update.counter name)).toList
  /-- The size of the store is the number of metrics. -/
  size : store.size = listing.metrics.length
  /-- Each metric has one row. -/
  rows_perm :
    listing.rows.Perm ((listing.gaugeUpdates ++ listing.counterUpdates).map Update.row)
  /-- The rows are in the order of the bytes of their names and then of their texts. -/
  rows_sorted : listing.rows.Pairwise RowInOrder
  /-- The rows do not depend on the listing. -/
  rows_eq : listing.rows = store.rows

theorem isComplete : listing.IsComplete where
  metrics := rfl
  gauges := listing.filter_gaugeUpdates
  counters := listing.filter_counterUpdates
  size := listing.length_metrics.symm
  rows_perm := List.mergeSort_perm _ _
  rows_sorted := (pairwise_mergeSort_rowAtMost _).imp (rowInOrder_iff _ _).mpr
  rows_eq := listing.rows_eq

end Listing

/-- A store is what some operations have made of the empty one, as far as anyone can see. -/
structure Records (operations : List Operation) (store : Store) : Prop where
  /-- A gauge is what it was set to last. -/
  gauge : ∀ name, store.gauge? name = (operations.filterMap (Operation.value? name)).getLast?
  /-- A counter to which nothing was added is absent. -/
  noCounter : ∀ name, operations.filterMap (Operation.delta? name) = [] ->
    store.counter? name = none
  /-- A counter is the sum of its deltas, as a signed number of sixty-four bits. -/
  counter : ∀ name, operations.filterMap (Operation.delta? name) ≠ [] ->
    (store.counter? name).map Int64.toInt =
      some ((total (operations.filterMap (Operation.delta? name))).bmod Int64.size)
  /-- The gauges are those that the operations on gauges alone would leave. -/
  gaugesAlone : store.gauges = (after (operations.filter Operation.setsGauge)).gauges
  /-- The counters are those that the operations on counters alone would leave. -/
  countersAlone :
    store.counters =
      (after (operations.filter fun operation => !operation.setsGauge)).counters
  /-- The store itself lists its metrics in the order of names. -/
  byName : store.metrics = (Listing.byName store).metrics
  /-- Every listing of the store shows all of it. -/
  listed : ∀ listing : Listing store, listing.IsComplete
  /-- Operations in another order lead to the same store if each gauge is set to the same values
  one after the other. -/
  reordered : ∀ others : List Operation, others.Perm operations ->
    (∀ name, others.filterMap (Operation.value? name) =
      operations.filterMap (Operation.value? name)) ->
    after others = store

/-- What can be seen of a store agrees with the operations that have led to it. -/
theorem records_after (operations : List Operation) : Records operations (after operations) where
  gauge := gauge?_after operations
  noCounter := by
    intro name none
    rw [counter?_after, none, increased_nil]
  counter := by
    intro name some
    rw [counter?_after, increased, if_neg some, Option.map_some, Int64.toInt_ofInt]
    change Option.some ((0 + _ : Int).bmod _) = _
    rw [Int.zero_add]
  gaugesAlone := (gauges_after_filter operations).symm
  countersAlone := (counters_after_filter operations).symm
  byName := rfl
  listed := Listing.isComplete
  reordered := by
    intro others perm sameValues
    rw [after_eq_applyAll, after_eq_applyAll]
    refine applyAll_reordered (perm.map _) (fun name => ?_) empty
    rw [List.filterMap_map, List.filterMap_map]
    exact sameValues name

end Store
end Telemetry
