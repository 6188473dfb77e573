import Telemetry.Payload
import Telemetry.Proofs.Json.Drift
import Telemetry.Proofs.Metric.Json

/-!
# Batches that are written and read again

What is read from a written batch is the batch but for its values: a reader
makes a number of the text of each.  A value with a short decimal comes back,
any other finite value keeps its sign and stays within four places, and what is
not finite is gone.
-/

namespace Telemetry
namespace Metric

open Json Bytes

/-- The metric that is read from the text of a metric. -/
def readBack (metric : Metric) : Metric :=
  { metric with value := metric.value.bind readBack? }

/-- A metric arrives as the one that is read from its text. -/
theorem ArrivesAs.eq_readBack
    {sent received : Metric}
    (arrives : sent.ArrivesAs received) :
    received = sent.readBack := by
  have value : received.value = sent.value.bind readBack? := by
    cases given : sent.value with
    | none => exact arrives.absent fun value isValue => by rw [given] at isValue; cases isValue
    | some value =>
        rw [Option.bind_some]
        cases finite : value.isFinite with
        | true =>
            obtain ⟨back, isBack, reads⟩ := exists_readBack? finite
            obtain ⟨arrived, isArrived, decoded⟩ := arrives.finite value given finite
            rw [reads.decode, Except.ok.injEq] at decoded
            rw [isArrived, isBack, decoded]
        | false =>
            rw [readBack?_of_not_finite finite]
            refine arrives.absent fun other isOther => ?_
            rw [given, Option.some.injEq] at isOther
            rwa [← isOther]
  obtain ⟨id, type, delta, _⟩ := received
  rw [readBack, ← value, ← arrives.id, ← arrives.type, ← arrives.delta]

/-- What is read from a written batch. -/
theorem listOfJson_listJson (batch : List Metric) :
    listOfJson (ofText (listJson batch)) = .ok (batch.map readBack) := by
  obtain ⟨received, decoded, arrives⟩ := exists_listOfJson batch
  have each : List.Forall₂ (· = ·) (batch.map readBack) received :=
    List.forall₂_map_left_iff.mpr (arrives.imp fun _ _ arrives => arrives.eq_readBack.symm)
  rw [List.forall₂_eq_eq_eq] at each
  rw [decoded, each]

/-- A metric is read as itself exactly if its value is. -/
theorem readBack_eq_self_iff (metric : Metric) :
    metric.readBack = metric ↔
      ∀ value, metric.value = some value -> readBack? value = some value := by
  obtain ⟨id, type, delta, value⟩ := metric
  cases value <;> simp [readBack]

/-- A metric is another one but for its value: a finite one may have moved a little, and one that is
not finite is lost. -/
structure Resembles (received sent : Metric) : Prop where
  id : received.id = sent.id
  type : received.type = sent.type
  delta : received.delta = sent.delta
  absent : sent.value = none -> received.value = none
  finite : ∀ value, sent.value = some value -> value.isFinite = true ->
    ∃ back, received.value = some back ∧ IsClose back value
  lost : ∀ value, sent.value = some value -> value.isFinite = false -> received.value = none

theorem readBack_resembles (metric : Metric) : metric.readBack.Resembles metric where
  id := rfl
  type := rfl
  delta := rfl
  absent := by
    intro absent
    rw [readBack, absent]
    rfl
  finite := by
    intro value given finite
    obtain ⟨back, isBack, -⟩ := exists_readBack? finite
    refine ⟨back, ?_, isClose_of_readBack? isBack⟩
    rw [readBack, given]
    exact isBack
  lost := by
    intro value given notFinite
    rw [readBack, given]
    exact readBack?_of_not_finite notFinite

end Metric

namespace Payload

open Json

/-- What the metrics that are read from an encoded batch have to do with it. -/
structure IsRoundTrip (batch received : List Metric) : Prop where
  /-- A value is what a reader makes of its text. -/
  each : received = batch.map Metric.readBack
  /-- Everything but the values stays, and they stay close. -/
  resembles : List.Forall₂ Metric.Resembles received batch
  /-- The batch comes back exactly if each of its values does. -/
  same : received = batch ↔
    ∀ metric ∈ batch, ∀ value, metric.value = some value -> readBack? value = some value
  /-- The batch comes back if the decimals of its values are short. -/
  short :
    (∀ metric ∈ batch, ∀ value, metric.value = some value -> IsWrittenShort value) ->
      received = batch

/-- Every encoded batch is decoded, whatever zips it and whatever pool its buffer is from. -/
theorem exists_isRoundTrip (zip : Bytes -> Bytes) (pool : Pool) (batch : List Metric) :
    ∃ received,
      Metric.listOfJson (encodeBatchWith zip pool batch).1.json = .ok received ∧
        IsRoundTrip batch received := by
  have same : batch.map Metric.readBack = batch ↔
      ∀ metric ∈ batch, ∀ value, metric.value = some value -> readBack? value = some value := by
    have fixed := @List.map_inj_left _ _ batch Metric.readBack id
    rw [List.map_id] at fixed
    exact fixed.trans (forall₂_congr fun metric _ => metric.readBack_eq_self_iff)
  refine ⟨_, Metric.listOfJson_listJson batch, rfl, ?_, same, fun short => ?_⟩
  · rw [List.forall₂_map_left_iff]
    exact List.forall₂_same.mpr fun metric _ => metric.readBack_resembles
  · exact same.mpr fun metric present value given =>
      readBack?_of_isWrittenShort (short metric present value given)

/-- A finite value that does not come back: its significand is rounded before it is divided. -/
theorem driftingValue_not_read_back :
    let sent : List Metric := [⟨"load", "gauge", none, some ⟨0x403f3eca06faea82⟩⟩]
    let received : List Metric := [⟨"load", "gauge", none, some ⟨0x403f3eca06faea83⟩⟩]
    (∀ metric ∈ sent, ∀ value, metric.value = some value -> value.isFinite = true) ∧
      Metric.listOfJson (encodeBatch ⟨1, 0, []⟩ sent).1.json = .ok received ∧ received ≠ sent := by
  intro sent received
  have back : sent.map Metric.readBack = received := by decide +kernel
  refine ⟨?_, ?_, by decide⟩
  · intro metric present value given
    obtain rfl := List.mem_singleton.mp present
    obtain rfl := Option.some.inj given
    decide
  · rw [← back]
    exact Metric.listOfJson_listJson sent

end Payload
end Telemetry
