import Telemetry.Metric.Json
import Telemetry.Proofs.Json.Record

/-!
# Metrics that are written and read again

A written metric is read with the same name, type and delta.  Its value is read
as the number that its text stands for, which need not be the number that was
written; a value that is not finite is written as `null` and read as none.
-/

namespace Telemetry

/-- What a metric is once it has been written and read. -/
structure Metric.ArrivesAs (sent received : Metric) : Prop where
  /-- The name stays. -/
  id : received.id = sent.id
  /-- The type stays. -/
  type : received.type = sent.type
  /-- The delta stays. -/
  delta : received.delta = sent.delta
  /-- A finite value becomes the number that its text is read as. -/
  finite : ∀ value, sent.value = some value -> value.isFinite = true ->
    ∃ back, received.value = some back ∧
      Json.decode Json.real (Bytes.ofText (Json.numberText value)) = .ok back
  /-- There is no other value. -/
  absent : (∀ value, sent.value = some value -> value.isFinite = false) -> received.value = none

namespace Metric

open Json Bytes

/-- The text of a value is read as a number if the value is finite, and as none if it is not. -/
theorem exists_value (value : Binary64) :
    ∃ arrived, ReadsAs (optional real) (ofText (numberText value)) arrived ∧
      (value.isFinite = true ->
        ∃ back, arrived = some back ∧ decode real (ofText (numberText value)) = .ok back) ∧
      (value.isFinite = false -> arrived = none) := by
  cases finite : value.isFinite with
  | true =>
      obtain ⟨back, -, reads⟩ := exists_real finite
      have reads : ReadsAs real (ofText (numberText value)) back := reads
      exact ⟨some back, reads.optional refusesNull_real, fun _ => ⟨back, rfl, reads.decode⟩,
        fun infinite => absurd infinite (by decide)⟩
  | false =>
      have null : numberText value = "null" := by
        rw [numberText, finite]
        rfl
      rw [null]
      exact ⟨none, readsAs_null real, fun isFinite => absurd isFinite Bool.false_ne_true,
        fun _ => rfl⟩

/-- The name and the type are the first members of a metric. -/
theorem collects_named (id type : String) :
    Collects shape.fields shape.blank [("id", textText id), ("type", textText type)]
      { id := some id, type := some type } := by
  refine .cons rfl rfl (Field.readsAs_of (readsAs_string id) _ _ _ _ _) ?_
  exact .cons rfl rfl (Field.readsAs_of (readsAs_string type) _ _ _ _ _) .nil

/-- The delta of a metric is collected, when there is one. -/
theorem collects_delta
    {draft : Draft}
    (isNew : draft.delta = none)
    (delta : Option Int64) :
    Collects shape.fields draft
      (delta.map fun delta => ("delta", toString delta.toInt)).toList
      { draft with delta := delta.map some } := by
  cases delta with
  | none =>
      obtain ⟨id, type, given, value⟩ := draft
      cases isNew
      exact .nil
  | some delta =>
      have reads := (readsAs_int64 delta).optional refusesNull_int64
      refine .cons rfl ?_ (Field.readsAs_of reads _ _ _ _ _) .nil
      simp [Field.of, isNew]

/-- The value of a metric is collected as what its text is read as, when there is one. -/
theorem collects_value
    {draft : Draft} {value : Binary64} {arrived : Option Binary64}
    (isNew : draft.value = none)
    (reads : ReadsAs (optional real) (ofText (numberText value)) arrived) :
    Collects shape.fields draft [("value", numberText value)]
      { draft with value := some arrived } := by
  refine .cons rfl ?_ (Field.readsAs_of reads _ _ _ _ _) .nil
  simp [Field.of, isNew]

/-- A written metric is read as one that it arrives as. -/
theorem exists_arriving (metric : Metric) :
    ∃ received, metric.ArrivesAs received ∧ ReadsAs shape.read (ofText metric.json) received := by
  obtain ⟨id, type, delta, value⟩ := metric
  have named := (collects_named id type).append (collects_delta rfl delta)
  have delta_eq : (delta.map some).getD none = delta := by cases delta <;> rfl
  cases value with
  | none =>
      refine ⟨⟨id, type, delta, none⟩, ⟨rfl, rfl, rfl, nofun, fun _ => rfl⟩, ?_⟩
      refine Shape.readsAs_object (named.append .nil) ?_
      simp [shape, require, delta_eq]
  | some value =>
      obtain ⟨arrived, reads, finite, absent⟩ := exists_value value
      refine ⟨⟨id, type, delta, arrived⟩, ⟨rfl, rfl, rfl, ?_, ?_⟩, ?_⟩
      · rintro _ ⟨rfl⟩ isFinite
        exact finite isFinite
      · intro notFinite
        exact absent (notFinite value rfl)
      · refine Shape.readsAs_object (named.append (collects_value rfl reads)) ?_
        simp [shape, require, delta_eq]

/-- Written metrics are read, each as one that it arrives as. -/
theorem exists_allArriving (batch : List Metric) :
    ∃ received, List.Forall₂ (fun text => ReadsAs shape.read (ofText text)) (batch.map json)
        received ∧
      List.Forall₂ ArrivesAs batch received := by
  induction batch with
  | nil => exact ⟨[], .nil, .nil⟩
  | cons metric rest inductionHypothesis =>
      obtain ⟨received, arrives, reads⟩ := exists_arriving metric
      obtain ⟨others, readsRest, arrivesRest⟩ := inductionHypothesis
      exact ⟨received :: others, .cons reads readsRest, .cons arrives arrivesRest⟩

/-- A written metric begins like an element of an array. -/
theorem beginsElement_json (metric : Metric) : BeginsElement (ofText metric.json) := by
  have opening : ofText "\x7b" = [0x7b] := by decide
  rw [json, objectText, ofText_append, ofText_append, opening, List.append_assoc]
  exact ⟨0x7b, _, rfl, by decide, by decide⟩

/-- A written list of metrics is decoded, each metric as one that it arrives as. -/
theorem exists_listOfJson (batch : List Metric) :
    ∃ received, listOfJson (ofText (listJson batch)) = .ok received ∧
      List.Forall₂ ArrivesAs batch received := by
  obtain ⟨received, reads, arrives⟩ := exists_allArriving batch
  have begins : ∀ text ∈ batch.map json, BeginsElement (ofText text) :=
    List.forall_mem_map.mpr fun metric _ => beginsElement_json metric
  exact ⟨received, (readsAs_list begins reads).decode, arrives⟩

end Metric
end Telemetry
