import Mathlib.Logic.Basic
import Telemetry.Store

/-!
# What a store keeps of its history

A gauge is what it was set to last, and a counter is the sum of all that was
added to it, wrapped around at sixty-four bits.  So a store depends neither on
the order of additions nor on how updates of different names are interleaved.
-/

namespace Telemetry

namespace Update

/-- What an update sets the gauge of a name to, if it sets it at all. -/
def value? (name : String) : Update -> Option Binary64
  | .gauge other value => if other = name then some value else none
  | .counter _ _ => none

/-- What an update adds to the counter of a name, if it adds to it at all. -/
def delta? (name : String) : Update -> Option Int64
  | .gauge _ _ => none
  | .counter other delta => if other = name then some delta else none

/-- Whether an update sets a gauge. -/
def setsGauge : Update -> Bool
  | .gauge _ _ => true
  | .counter _ _ => false

/-- An update that adds to no counter. -/
theorem delta?_of_setsGauge
    {update : Update}
    (sets : update.setsGauge = true)
    (name : String) :
    update.delta? name = none := by
  cases update with
  | gauge other value => rfl
  | counter other delta => cases sets

/-- An update that sets no gauge. -/
theorem value?_of_not_setsGauge
    {update : Update}
    (adds : update.setsGauge = false)
    (name : String) :
    update.value? name = none := by
  cases update with
  | gauge other value => cases adds
  | counter other delta => rfl

end Update

namespace Store

variable {store : Store} {name : String}

/-- Two stores with the same gauges and the same counters are the same. -/
theorem ext_lookup
    {first second : Store}
    (gauges : ∀ name, first.gauge? name = second.gauge? name)
    (counters : ∀ name, first.counter? name = second.counter? name) :
    first = second := by
  cases first
  cases second
  congr
  · exact Std.ExtTreeMap.ext_getElem? gauges
  · exact Std.ExtTreeMap.ext_getElem? counters

@[simp] theorem applyAll_cons (store : Store) (update : Update) (rest : List Update) :
    store.applyAll (update :: rest) = (store.apply update).applyAll rest := rfl

/-! ## One update -/

theorem gauge?_apply (store : Store) (name : String) (update : Update) :
    (store.apply update).gauge? name = (update.value? name).or (store.gauge? name) := by
  cases update with
  | gauge other value =>
      refine (gauge?_setGauge store other name value).trans ?_
      by_cases same : other = name <;> simp [Update.value?, same]
  | counter other delta => exact gauge?_addCounter store other name delta

theorem counter?_apply_of_delta
    {update : Update} {delta : Int64}
    (adds : update.delta? name = some delta) :
    (store.apply update).counter? name = some ((store.counter? name).getD 0 + delta) := by
  cases update with
  | gauge other value => cases adds
  | counter other added =>
      obtain ⟨rfl, rfl⟩ : other = name ∧ added = delta := by
        simpa [Update.delta?] using adds
      exact (counter?_addCounter store other other added).trans (if_pos rfl)

theorem counter?_apply_of_no_delta
    {update : Update}
    (spares : update.delta? name = none) :
    (store.apply update).counter? name = store.counter? name := by
  cases update with
  | gauge other value => exact counter?_setGauge store other name value
  | counter other added =>
      have different : other ≠ name := by
        simpa [Update.delta?] using spares
      exact (counter?_addCounter store other name added).trans (if_neg different)

/-! ## Many updates -/

/-- What deltas amount to, without wrapping around. -/
def total : List Int64 -> Int
  | [] => 0
  | delta :: rest => delta.toInt + total rest

@[simp] theorem total_nil : total [] = 0 := rfl

@[simp] theorem total_cons (delta : Int64) (rest : List Int64) :
    total (delta :: rest) = delta.toInt + total rest := rfl

theorem total_perm {first second : List Int64} (perm : first.Perm second) :
    total first = total second := by
  induction perm with
  | nil => rfl
  | cons delta _ inductionHypothesis => rw [total_cons, total_cons, inductionHypothesis]
  | swap first second rest => simp only [total_cons, Int.add_left_comm]
  | trans _ _ front back => exact front.trans back

/-- A counter after some deltas. -/
def increased (start : Option Int64) (deltas : List Int64) : Option Int64 :=
  if deltas = [] then start else some (Int64.ofInt ((start.getD 0).toInt + total deltas))

@[simp] theorem increased_nil (start : Option Int64) : increased start [] = start := rfl

theorem increased_cons (start : Option Int64) (delta : Int64) (rest : List Int64) :
    increased start (delta :: rest) = increased (some (start.getD 0 + delta)) rest := by
  have first : Int64.ofInt ((start.getD 0).toInt + delta.toInt) = start.getD 0 + delta := by
    rw [Int64.ofInt_add, Int64.ofInt_toInt, Int64.ofInt_toInt]
  unfold increased
  rw [if_neg (List.cons_ne_nil delta rest), total_cons, ← Int.add_assoc, Int64.ofInt_add, first]
  split
  next last => rw [last, total_nil]; exact congrArg some (Int64.add_zero _)
  next more => rw [Option.getD_some, Int64.ofInt_add, Int64.ofInt_toInt]

theorem increased_append (start : Option Int64) (front back : List Int64) :
    increased start (front ++ back) = increased (increased start front) back := by
  induction front generalizing start with
  | nil => rfl
  | cons delta rest inductionHypothesis =>
      rw [List.cons_append, increased_cons, inductionHypothesis, increased_cons]

theorem increased_perm
    {first second : List Int64}
    (perm : first.Perm second)
    (start : Option Int64) :
    increased start first = increased start second := by
  unfold increased
  rw [total_perm perm]
  exact if_congr ⟨fun nil => (nil ▸ perm).symm.eq_nil, fun nil => (nil ▸ perm).eq_nil⟩ rfl rfl

/-- A gauge is what it was set to last. -/
theorem gauge?_applyAll (store : Store) (updates : List Update) (name : String) :
    (store.applyAll updates).gauge? name =
      (updates.filterMap (Update.value? name)).getLast?.or (store.gauge? name) := by
  induction updates generalizing store with
  | nil => rfl
  | cons update rest inductionHypothesis =>
      rw [applyAll_cons, inductionHypothesis, gauge?_apply]
      cases change : update.value? name with
      | none => rw [List.filterMap_cons_none change, Option.none_or]
      | some value =>
          rw [List.filterMap_cons_some change, List.getLast?_cons]
          cases (rest.filterMap (Update.value? name)).getLast? <;> rfl

/-- A counter is the sum of what was added to it. -/
theorem counter?_applyAll (store : Store) (updates : List Update) (name : String) :
    (store.applyAll updates).counter? name =
      increased (store.counter? name) (updates.filterMap (Update.delta? name)) := by
  induction updates generalizing store with
  | nil => rfl
  | cons update rest inductionHypothesis =>
      rw [applyAll_cons, inductionHypothesis]
      cases change : update.delta? name with
      | none =>
          rw [List.filterMap_cons_none change, counter?_apply_of_no_delta change]
      | some delta =>
          rw [List.filterMap_cons_some change, counter?_apply_of_delta change, increased_cons]

/-- A gauge that is set once at most is what it was set to, or what it was. -/
theorem gauge?_applyAll_of_toList
    {updates : List Update} {value : Option Binary64}
    (once : updates.filterMap (Update.value? name) = value.toList)
    (store : Store) :
    (store.applyAll updates).gauge? name = value.or (store.gauge? name) := by
  rw [gauge?_applyAll, once]
  cases value <;> rfl

/-- A counter that is added to once at most grows by what was added, or is what it was. -/
theorem counter?_applyAll_of_toList
    {updates : List Update} {delta : Option Int64}
    (once : updates.filterMap (Update.delta? name) = delta.toList)
    (store : Store) :
    (store.applyAll updates).counter? name =
      (delta.map ((store.counter? name).getD 0 + ·)).or (store.counter? name) := by
  rw [counter?_applyAll, once]
  cases delta with
  | none => rfl
  | some delta => rw [Option.toList_some, increased_cons, increased_nil]; rfl

/-- Updates may be reordered as long as the values that each gauge is set to keep their order. -/
theorem applyAll_reordered
    {first second : List Update}
    (perm : first.Perm second)
    (sameValues : ∀ name,
      first.filterMap (Update.value? name) = second.filterMap (Update.value? name))
    (store : Store) :
    store.applyAll first = store.applyAll second := by
  refine ext_lookup (fun name => ?_) (fun name => ?_)
  · rw [gauge?_applyAll, gauge?_applyAll, sameValues]
  · rw [counter?_applyAll, counter?_applyAll]
    exact increased_perm (perm.filterMap _) _

end Store
end Telemetry
