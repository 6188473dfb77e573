import Telemetry.Proofs.Rpc.Wire
import Telemetry.Proofs.Service.FrontEnds
import Telemetry.Proofs.Store.Listing
import Telemetry.Sending.Rpc

/-!
# A delivered store is merged into the store of the server

A sender makes entries of its metrics, and the entries go as bytes.  What the
server reads from the bytes sets each gauge of the sender, adds each of its
counters and leaves all other names alone, in whatever order the sender has
listed its store.
-/

namespace Telemetry

namespace Update

/-- What a receiver makes of an update: a gauge of zero has lost its sign. -/
def received : Update -> Update
  | .gauge name value => .gauge name value.unsignedZero
  | .counter name delta => .counter name delta

@[simp] theorem received_gauge (name : String) (value : Binary64) :
    (gauge name value).received = gauge name value.unsignedZero := rfl

@[simp] theorem received_counter (name : String) (delta : Int64) :
    (counter name delta).received = counter name delta := rfl

@[simp] theorem name_received (update : Update) : update.received.name = update.name := by
  cases update <;> rfl

@[simp] theorem id_toMetric (update : Update) : update.toMetric.id = update.name := by
  cases update <;> rfl

/-- What a received update sets a gauge to. -/
theorem value?_received (update : Update) (name : String) :
    update.received.value? name = (update.value? name).map Binary64.unsignedZero := by
  cases update with
  | gauge other value => by_cases same : other = name <;> simp [value?, same]
  | counter other delta => rfl

/-- What a received update adds to a counter. -/
theorem delta?_received (update : Update) (name : String) :
    update.received.delta? name = update.delta? name := by
  cases update <;> rfl

end Update

/-- The entry of an update is received as the metric of what a receiver makes of the update. -/
theorem Rpc.Entry.toMetric_received_ofMetric (update : Update) :
    (ofMetric update.toMetric).received.toMetric = update.received.toMetric := by
  cases update with
  | gauge name value => rfl
  | counter name delta =>
      have zero : (⟨0⟩ : Binary64).unsignedZero = ⟨0⟩ := rfl
      simp [ofMetric, Update.toMetric, received, toMetric, zero]

namespace Service

/-- Updates that have names are all applied. -/
theorem applyMetrics_named
    {updates : List Update}
    (named : ∀ update ∈ updates, update.name ≠ "")
    (store : Store) :
    applyMetrics store (updates.map Update.toMetric) = (store.applyAll updates, .ok ()) := by
  induction updates generalizing store with
  | nil => rfl
  | cons update rest inductionHypothesis =>
      have first : update.toMetric.toNamedUpdate = .ok update := by
        rw [Metric.toNamedUpdate, Update.id_toMetric, if_neg (named update List.mem_cons_self),
          Metric.toUpdate_toMetric]
      rw [List.map_cons, applyMetrics, first, Store.applyAll_cons]
      exact inductionHypothesis (fun later present => named later (List.mem_cons_of_mem _ present))
        (store.apply update)

/-- Without a repository, an update of updates that have names is done, and they are applied. -/
theorem update_named
    {service : Service} {updates : List Update}
    (alone : service.repository = none)
    (named : ∀ update ∈ updates, update.name ≠ "")
    (state : State) (now : Int64) (address : String) :
    (service.update state now (updates.map Update.toMetric) address).2 = .ok () ∧
      (service.update state now (updates.map Update.toMetric) address).1.store =
        state.store.applyAll updates := by
  obtain ⟨result, ⟨store, -, -⟩, -⟩ :=
    service.update_after_applyAndSync state now (updates.map Update.toMetric) address
  have applied : service.applyAndSync state (updates.map Update.toMetric) =
      ({ state with store := state.store.applyAll updates }, .ok ()) := by
    rw [applyAndSync, applyMetrics_named named]
    dsimp only
    rw [sync, alone]
  rw [applied] at result store
  exact ⟨result, store⟩

end Service

namespace Store

/-- A store into which another one was merged: its gauges were set, its counters were added, and no
other name was touched. -/
structure IsMerged (before added after : Store) : Prop where
  /-- A gauge is set to the same number. -/
  gauge : ∀ name value, added.gauge? name = some value ->
    ∃ received, after.gauge? name = some received ∧ received.SameNumber value
  /-- A counter is added to, modulo the number of words of sixty-four bits. -/
  counter : ∀ name delta, added.counter? name = some delta ->
    after.counter? name = some ((before.counter? name).getD 0 + delta)
  /-- Gauges of other names stay. -/
  otherGauge : ∀ name, added.gauge? name = none -> after.gauge? name = before.gauge? name
  /-- Counters of other names stay. -/
  otherCounter : ∀ name, added.counter? name = none -> after.counter? name = before.counter? name

/-- A store with the received updates of another one. -/
def merge (store added : Store) : Store :=
  store.applyAll (added.updates.map Update.received)

namespace Listing

variable {added : Store} (listing : Listing added)

/-- The gauges of a store once a listing of another one was received. -/
theorem gauge?_applyAll_received (store : Store) (name : String) :
    (store.applyAll ((listing.gaugeUpdates ++ listing.counterUpdates).map Update.received)).gauge?
        name =
      ((added.gauge? name).map Binary64.unsignedZero).or (store.gauge? name) := by
  have values : ((listing.gaugeUpdates ++ listing.counterUpdates).map
      Update.received).filterMap (Update.value? name) =
        ((added.gauge? name).map Binary64.unsignedZero).toList := by
    rw [List.filterMap_map]
    simp only [Function.comp_def, Update.value?_received]
    rw [← List.map_filterMap, listing.filterMap_value?, Option.toList_map]
  exact gauge?_applyAll_of_toList values store

/-- The counters of a store once a listing of another one was received. -/
theorem counter?_applyAll_received (store : Store) (name : String) :
    (store.applyAll
        ((listing.gaugeUpdates ++ listing.counterUpdates).map Update.received)).counter? name =
      ((added.counter? name).map ((store.counter? name).getD 0 + ·)).or (store.counter? name) := by
  have deltas : ((listing.gaugeUpdates ++ listing.counterUpdates).map
      Update.received).filterMap (Update.delta? name) = (added.counter? name).toList := by
    rw [List.filterMap_map]
    simp only [Function.comp_def, Update.delta?_received]
    exact listing.filterMap_delta? name
  exact counter?_applyAll_of_toList deltas store

/-- Every listing leads to the same store. -/
theorem applyAll_received (store : Store) :
    store.applyAll ((listing.gaugeUpdates ++ listing.counterUpdates).map Update.received) =
      store.merge added := by
  have byName : store.merge added = store.applyAll
      (((byName added).gaugeUpdates ++ (byName added).counterUpdates).map Update.received) := rfl
  rw [byName]
  refine ext_lookup (fun name => ?_) (fun name => ?_)
  · rw [gauge?_applyAll_received, gauge?_applyAll_received]
  · rw [counter?_applyAll_received, counter?_applyAll_received]

end Listing

theorem gauge?_merge (store added : Store) (name : String) :
    (store.merge added).gauge? name =
      ((added.gauge? name).map Binary64.unsignedZero).or (store.gauge? name) :=
  (Listing.byName added).gauge?_applyAll_received store name

theorem counter?_merge (store added : Store) (name : String) :
    (store.merge added).counter? name =
      ((added.counter? name).map ((store.counter? name).getD 0 + ·)).or (store.counter? name) :=
  (Listing.byName added).counter?_applyAll_received store name

theorem isMerged_merge (store added : Store) : IsMerged store added (store.merge added) where
  gauge := by
    intro name value held
    rw [gauge?_merge, held]
    exact ⟨value.unsignedZero, rfl, value.sameNumber_unsignedZero⟩
  counter := by
    intro name delta held
    rw [counter?_merge, held]
    rfl
  otherGauge := by
    intro name absent
    rw [gauge?_merge, absent]
    rfl
  otherCounter := by
    intro name absent
    rw [counter?_merge, absent]
    rfl

end Store

namespace Rpc

/--
A store whose metrics have names that fit into memory is delivered to a server without a subnet and
without a repository.  The entries of the call come back from its bytes, the call is done, and it
leaves the store of the server with the delivered one merged into it, the same whatever the order in
which the sender has listed its metrics.
-/
theorem delivered_store_is_merged
    {service : Service} {agent : Store}
    (sender : Sending.RpcSender) (state : Service.State) (now : Int64)
    (alone : service.repository = none)
    (named : ∀ metric ∈ agent.metrics, metric.id ≠ "")
    (short : ∀ metric ∈ agent.metrics, (Bytes.ofText metric.id).length < 2 ^ 63) :
    ∃ merged, Store.IsMerged state.store agent merged ∧
      ∀ listing : agent.Listing, ∃ entries after,
        readCall? (writeCall (sender.call listing.metrics).entries) = some entries ∧
        ({ service } : Server).handle now state { sender.call listing.metrics with entries } =
          (after, .ok ()) ∧
        after.store = merged := by
  refine ⟨state.store.merge agent, Store.isMerged_merge _ _, fun listing => ?_⟩
  let updates := listing.gaugeUpdates ++ listing.counterUpdates
  have listed : ∀ update ∈ updates, update.toMetric ∈ agent.metrics := fun update present =>
    List.mem_map_of_mem (listing.updates_perm.mem_iff.mp present)
  let sent := updates.map fun update => Entry.ofMetric update.toMetric
  have isSent : (sender.call listing.metrics).entries = sent := List.map_map
  have id_sent : ∀ update : Update, (Entry.ofMetric update.toMetric).id = update.toMetric.id := by
    rintro (⟨name, value⟩ | ⟨name, delta⟩) <;> rfl
  have fits : ∀ entry ∈ sent, (Bytes.ofText entry.id).length + 50 < UInt64.size := by
    intro entry present
    obtain ⟨update, isUpdate, rfl⟩ := List.mem_map.mp present
    have length := short _ (listed update isUpdate)
    have room : 2 ^ 63 + 50 < UInt64.size := by decide
    rw [id_sent]
    omega
  have metrics : (sent.map Entry.received).map Entry.toMetric =
      (updates.map Update.received).map Update.toMetric := by
    simp only [sent, List.map_map, Function.comp_def, Entry.toMetric_received_ofMetric]
  have receivedNamed : ∀ update ∈ updates.map Update.received, update.name ≠ "" := by
    intro update present
    obtain ⟨original, isUpdate, rfl⟩ := List.mem_map.mp present
    rw [Update.name_received, ← Update.id_toMetric]
    exact named _ (listed original isUpdate)
  let call : Call := { sender.call listing.metrics with entries := sent.map Entry.received }
  obtain ⟨done, store⟩ := Service.update_named alone receivedNamed state now
    (call.address?.getD "")
  have handled := handle_of_no_subnet service now state call
  rw [show call.entries.map Entry.toMetric = _ from metrics] at handled
  refine ⟨sent.map Entry.received, _, ?_, handled.trans (Prod.ext rfl ?_), ?_⟩
  · rw [isSent]
    exact readCall?_writeCall fits
  · dsimp only [Prod.map]
    rw [done]
    rfl
  · exact store.trans (listing.applyAll_received state.store)

/-- A gauge that is no number, an infinite one and a negative zero are delivered, and a counter of
the server wraps around. -/
theorem delivered_store_wraps_around :
    let agent := Store.empty.applyAll
      [.gauge "load" Binary64.notANumber, .gauge "heat" (Binary64.infinity true),
        .gauge "rest" (Binary64.zero true), .counter "load" 1]
    let state : Service.State :=
      { store := Store.empty.applyAll [.counter "load" Int64.maxValue, .gauge "old" ⟨1⟩] }
    let sender : Sending.RpcSender := { uri := "http://localhost:3200", realIp := "127.0.0.1" }
    (∀ metric ∈ agent.metrics, metric.id ≠ "") ∧
      (∀ metric ∈ agent.metrics, (Bytes.ofText metric.id).length < 2 ^ 63) ∧
      ∃ merged : Store, merged.counter? "load" = some Int64.minValue ∧
        merged.gauge? "old" = some ⟨1⟩ ∧
        ∀ listing : agent.Listing, ∃ entries after,
          readCall? (writeCall (sender.call listing.metrics).entries) = some entries ∧
          ({ service := {} } : Server).handle 0 state { sender.call listing.metrics with entries } =
            (after, .ok ()) ∧
          after.store = merged := by
  intro agent state sender
  have named : ∀ metric ∈ agent.metrics, metric.id ≠ "" := by decide +kernel
  have short : ∀ metric ∈ agent.metrics, (Bytes.ofText metric.id).length < 2 ^ 63 := by
    decide +kernel
  obtain ⟨merged, isMerged, delivered⟩ :=
    delivered_store_is_merged sender state 0 (rfl : ({} : Service).repository = none) named short
  have added := isMerged.counter "load" 1 (by decide +kernel)
  have spared := isMerged.otherGauge "old" (by decide +kernel)
  exact ⟨named, short, merged, added.trans (by decide +kernel), spared.trans (by decide +kernel),
    delivered⟩

end Rpc
end Telemetry
