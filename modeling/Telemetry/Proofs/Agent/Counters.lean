import Telemetry.Proofs.Agent.Polls
import Telemetry.Proofs.Store.History

/-!
# What the polls of an agent add up to

A collector that counts its polls adds one to a counter of its own at each of
them.  The counter then tells how many polls were made by the collectors that
share its name.
-/

namespace Telemetry

/-! ## Counters that are increased by one -/

/-- The value of a counter that was absent and has been increased by one so many times. -/
def counted (count : Nat) : Option Int64 :=
  if count = 0 then none else some (Int64.ofNat count)

theorem getD_counted (count : Nat) : (counted count).getD 0 = Int64.ofNat count := by
  unfold counted
  split
  next zero => rw [zero]; rfl
  next positive => rfl

namespace Store

variable {store : Store} {name : String}

/-- Each update that adds one to a counter is counted by it. -/
theorem counter?_applyAll_of_ones {updates : List Update} {count more : Nat}
    (starts : store.counter? name = counted count)
    (ones : updates.filterMap (Update.delta? name) = List.replicate more 1) :
    (store.applyAll updates).counter? name = counted (count + more) := by
  induction updates generalizing store count more with
  | nil =>
      cases more with
      | zero => exact starts
      | succ fewer => cases ones
  | cons update rest inductionHypothesis =>
      change ((store.apply update).applyAll rest).counter? name = counted (count + more)
      cases change : update.delta? name with
      | none =>
          rw [List.filterMap_cons_none change] at ones
          refine inductionHypothesis ?_ ones
          rw [counter?_apply_of_no_delta change, starts]
      | some delta =>
          rw [List.filterMap_cons_some change] at ones
          cases more with
          | zero => cases ones
          | succ fewer =>
              rw [List.replicate_succ] at ones
              obtain ⟨rfl, onesRest⟩ := List.cons.inj ones
              rw [Nat.add_comm fewer 1, ← Nat.add_assoc]
              refine inductionHypothesis ?_ onesRest
              rw [counter?_apply_of_delta change, starts, getD_counted]
              unfold counted
              rw [if_neg (Nat.succ_ne_zero count), Int64.ofNat_add]
              rfl

theorem toMetric_inj {first second : Update}
    (same : first.toMetric = second.toMetric) :
    first = second := by
  have read := congrArg Metric.toUpdate same
  rw [Metric.toUpdate_toMetric, Metric.toUpdate_toMetric] at read
  exact Except.ok.inj read

/-- The content of a store tells the values of its counters. -/
theorem mem_metrics_counter_iff (store : Store) (name : String) (value : Int64) :
    (Update.counter name value).toMetric ∈ store.metrics ↔ store.counter? name = some value := by
  have entry : (name, value) ∈ store.counters.toList ↔ store.counter? name = some value :=
    Std.ExtTreeMap.mem_toList_iff_getElem?_eq_some
  rw [← entry]
  constructor
  · intro present
    obtain ⟨update, listed, same⟩ := List.mem_map.mp present
    cases toMetric_inj same
    obtain isGauge | isCounter := List.mem_append.mp listed
    · obtain ⟨other, -, same⟩ := List.mem_map.mp isGauge
      cases same
    · obtain ⟨⟨otherName, otherValue⟩, isEntry, same⟩ := List.mem_map.mp isCounter
      cases same
      exact isEntry
  · intro present
    refine List.mem_map_of_mem (List.mem_append_right _ ?_)
    exact List.mem_map.mpr ⟨(name, value), present, rfl⟩

theorem metrics_eq_nil_iff (store : Store) : store.metrics = [] ↔ store.isEmpty = true := by
  unfold metrics updates isEmpty
  rw [List.map_eq_nil_iff, List.append_eq_nil_iff, List.map_eq_nil_iff, List.map_eq_nil_iff,
    Bool.and_eq_true_iff, ← List.isEmpty_iff, ← List.isEmpty_iff,
    Std.ExtTreeMap.isEmpty_toList, Std.ExtTreeMap.isEmpty_toList]

end Store

/-! ## Polls that are counted -/

namespace Agent

/-- The name of the counter that counts the polls of collectors of a name. -/
def tallyName (name : String) : String :=
  name ++ ".polls"

/-- A batch tells that so many polls were made by the collectors of a name. -/
def Tells (batch : List Metric) (name : String) (count : Nat) : Prop :=
  ∀ value, (Update.counter (tallyName name) value).toMetric ∈ batch ↔ counted count = some value

namespace Plan

/-- The collectors count their polls, each poll by one, in counters that are absent at first. -/
structure CountsPolls (plan : Plan) : Prop where
  /-- Every collector waits some time between two polls. -/
  positive : ∀ collector ∈ plan.collectors, 0 < collector.interval
  /-- No poll has been counted at the start. -/
  absent : ∀ collector ∈ plan.collectors, plan.seed.counter? (tallyName collector.name) = none
  /-- A poll adds one to the counter of its collector's name. -/
  own : ∀ collector ∈ plan.collectors, ∀ number,
    (collector.poll number).filterMap (Update.delta? (tallyName collector.name)) = [1]
  /-- A poll adds nothing to the counters of other collectors. -/
  other : ∀ collector ∈ plan.collectors, ∀ second ∈ plan.collectors,
    collector.name ≠ second.name -> ∀ number,
      (collector.poll number).filterMap (Update.delta? (tallyName second.name)) = []

/-- How many polls the collectors of a name make, by how many each sampler makes. -/
def pollCount (plan : Plan) (counts : Sampler -> Nat) (name : String) : Nat :=
  (plan.samplers.filter fun sampler => sampler.collector.name == name).foldr
    (fun sampler total => counts sampler + total) 0

variable {plan : Plan}

theorem pollCount_mono {few many : Sampler -> Nat}
    (fewer : ∀ sampler, few sampler ≤ many sampler)
    (name : String) :
    plan.pollCount few name ≤ plan.pollCount many name := by
  unfold pollCount
  induction plan.samplers.filter fun sampler => sampler.collector.name == name with
  | nil => exact Nat.le_refl _
  | cons sampler rest inductionHypothesis =>
      rw [List.foldr_cons, List.foldr_cons]
      exact Nat.add_le_add (fewer sampler) inductionHypothesis

/-- Each poll of a collector of a name is worth one, and no other poll is. -/
theorem CountsPolls.filterMap_firstPolls {collector second : Collector}
    (countsPolls : plan.CountsPolls)
    (present : collector ∈ plan.collectors)
    (isNamed : second ∈ plan.collectors)
    (count : Nat) :
    ((collector.firstPolls count).flatMap Poll.updates).filterMap
        (Update.delta? (tallyName second.name)) =
      List.replicate (if collector.name = second.name then count else 0) 1 := by
  unfold Collector.firstPolls
  rw [List.flatMap_map, List.filterMap_flatMap]
  split
  next same =>
    have each : ∀ number ∈ List.range count,
        ((collector.pollAt number).updates.filterMap (Update.delta? (tallyName second.name))) =
          [1] := by
      intro number _
      rw [← same]
      exact countsPolls.own collector present number
    rw [List.flatMap_congr each, ← List.map_eq_flatMap, List.map_const', List.length_range]
  next different =>
    refine List.flatMap_eq_nil_iff.mpr ?_
    intro number _
    exact countsPolls.other collector present second isNamed different number

theorem CountsPolls.filterMap_polls {second : Collector}
    (countsPolls : plan.CountsPolls)
    (isNamed : second ∈ plan.collectors)
    (counts : Sampler -> Nat) :
    ((plan.polls counts).flatMap Poll.updates).filterMap
        (Update.delta? (tallyName second.name)) =
      List.replicate (plan.pollCount counts second.name) 1 := by
  suffices partly : ∀ samplers : List Sampler,
      (∀ sampler ∈ samplers, sampler.collector ∈ plan.collectors) ->
      ((samplers.flatMap fun sampler =>
          sampler.collector.firstPolls (counts sampler)).flatMap Poll.updates).filterMap
            (Update.delta? (tallyName second.name)) =
        List.replicate ((samplers.filter fun sampler =>
          sampler.collector.name == second.name).foldr
            (fun sampler total => counts sampler + total) 0) 1 from
    partly plan.samplers fun _ => collector_mem_of_mem_samplers
  intro samplers included
  induction samplers with
  | nil => rfl
  | cons sampler rest inductionHypothesis =>
      have first := countsPolls.filterMap_firstPolls (included sampler List.mem_cons_self)
        isNamed (counts sampler)
      have others := inductionHypothesis
        (fun other present => included other (List.mem_cons_of_mem _ present))
      rw [List.flatMap_cons, List.flatMap_append, List.filterMap_append, first, others,
        List.replicate_append_replicate]
      congr 1
      rw [List.filter_cons]
      by_cases same : sampler.collector.name = second.name
      · rw [if_pos same, if_pos (beq_iff_eq.mpr same), List.foldr_cons]
      · rw [if_neg same, if_neg (by simpa using same), Nat.zero_add]

/-- The store after polls of all collectors tells how many there were. -/
theorem CountsPolls.tells_pollAll {collector : Collector}
    (countsPolls : plan.CountsPolls)
    (present : collector ∈ plan.collectors)
    (counts : Sampler -> Nat) :
    Tells (pollAll plan.seed (plan.polls counts)).metrics collector.name
      (plan.pollCount counts collector.name) := by
  intro value
  rw [Store.mem_metrics_counter_iff]
  have reordered := ((List.mergeSort_perm (plan.polls counts) Poll.isBefore).flatMap_right
    Poll.updates).filterMap (Update.delta? (tallyName collector.name))
  rw [countsPolls.filterMap_polls present counts] at reordered
  have absent : plan.seed.counter? (tallyName collector.name) = counted 0 :=
    countsPolls.absent collector present
  have counts := Store.counter?_applyAll_of_ones absent (List.perm_replicate.mp reordered)
  rw [Nat.zero_add] at counts
  unfold pollAll
  rw [counts]

end Plan

/-- How far a counter can count before it overflows. -/
def counterBound : Nat := 1 <<< 63

/-- A batch that tells of fewer polls shows no larger a value, unless the counter overflows. -/
theorem Tells.le_of_le {early late : List Metric} {name : String} {few many : Nat}
    {earlyValue lateValue : Int64}
    (tellsFew : Tells early name few)
    (tellsMany : Tells late name many)
    (fewer : few ≤ many)
    (fits : many < counterBound)
    (shown : (Update.counter (tallyName name) earlyValue).toMetric ∈ early)
    (shownLater : (Update.counter (tallyName name) lateValue).toMetric ∈ late) :
    earlyValue ≤ lateValue := by
  have few_eq := congrArg (Option.getD · 0) ((tellsFew earlyValue).mp shown)
  have many_eq := congrArg (Option.getD · 0) ((tellsMany lateValue).mp shownLater)
  simp only [getD_counted, Option.getD_some] at few_eq many_eq
  rw [← few_eq, ← many_eq, Int64.le_iff_toInt_le,
    Int64.toInt_ofNat_of_lt (Nat.lt_of_le_of_lt fewer fits), Int64.toInt_ofNat_of_lt fits]
  exact Int.ofNat_le.mpr fewer

end Agent
end Telemetry
