import Mathlib.Data.List.Basic
import Telemetry.Agent.Run

/-!
# The polls of an agent as one sequence

The collectors of an agent change one store, one poll after another.  A store
that a report finds is the result of some first part of that sequence: of the
polls that were due before the report.
-/

namespace Telemetry
namespace Agent

/-! ## Sorting a list whose parts are in order -/

/-- A list splits in one way into entries with a property and entries without it. -/
theorem append_inj_of_split {entry : Type} (has : entry -> Bool)
    {left right left' right' : List entry}
    (same : left ++ right = left' ++ right')
    (leftHas : ∀ item ∈ left, has item = true)
    (rightLacks : ∀ item ∈ right, has item = false)
    (leftHas' : ∀ item ∈ left', has item = true)
    (rightLacks' : ∀ item ∈ right', has item = false) :
    left = left' ∧ right = right' := by
  have leftParts : (left ++ right).filter has = left := by
    rw [List.filter_append, List.filter_eq_self.mpr leftHas,
      List.filter_eq_nil_iff.mpr (fun item present => by simp [rightLacks item present]),
      List.append_nil]
  have leftParts' : (left' ++ right').filter has = left' := by
    rw [List.filter_append, List.filter_eq_self.mpr leftHas',
      List.filter_eq_nil_iff.mpr (fun item present => by simp [rightLacks' item present]),
      List.append_nil]
  have equal : left = left' := by
    rw [← leftParts, same, leftParts']
  exact ⟨equal, List.append_cancel_left (equal ▸ same)⟩

section Sorting

variable {entry : Type} {le : entry -> entry -> Bool}

/-- In a sorted list an entry stands behind all that it does not come before. -/
theorem exists_mergeSort_cons
    (trans : ∀ first second third, le first second = true -> le second third = true ->
      le first third = true)
    (total : ∀ first second, (le first second || le second first) = true)
    (item : entry)
    (entries : List entry) :
    ∃ before behind, (item :: entries).mergeSort le = before ++ item :: behind ∧
      entries.mergeSort le = before ++ behind ∧
      (∀ other ∈ before, le item other = false) ∧ ∀ other ∈ behind, le item other = true := by
  obtain ⟨before, behind, sorted, rest, earlier⟩ := List.mergeSort_cons trans total item entries
  refine ⟨before, behind, sorted, rest, ?_, ?_⟩
  · intro other present
    simpa using earlier other present
  · have ordered := List.pairwise_mergeSort trans total (item :: entries)
    rw [sorted] at ordered
    have tail := (List.pairwise_append.mp ordered).2.1
    exact (List.pairwise_cons.mp tail).1

/-- Sorting keeps apart what comes first and what comes behind it. -/
theorem mergeSort_eq_append {entries : List entry}
    (trans : ∀ first second third, le first second = true -> le second third = true ->
      le first third = true)
    (total : ∀ first second, (le first second || le second first) = true)
    (early : entry -> Bool)
    (apart : ∀ first ∈ entries, ∀ second ∈ entries, early first = true -> early second = false ->
      le first second = true ∧ le second first = false) :
    entries.mergeSort le =
      (entries.filter early).mergeSort le ++
        (entries.filter fun item => !early item).mergeSort le := by
  induction entries with
  | nil => simp
  | cons item rest inductionHypothesis =>
      have apartRest := inductionHypothesis (fun first isFirst second isSecond =>
        apart first (List.mem_cons_of_mem _ isFirst) second (List.mem_cons_of_mem _ isSecond))
      obtain ⟨before, behind, sorted, sortedRest, beforeItem, behindItem⟩ :=
        exists_mergeSort_cons trans total item rest
      have earlyOf {other : entry}
          (present : other ∈ (rest.filter early).mergeSort le) :
          other ∈ rest ∧ early other = true :=
        List.mem_filter.mp (List.mem_mergeSort.mp present)
      have lateOf {other : entry}
          (present : other ∈ (rest.filter fun item => !early item).mergeSort le) :
          other ∈ rest ∧ early other = false := by
        simpa using List.mem_filter.mp (List.mem_mergeSort.mp present)
      rw [sorted, List.filter_cons, List.filter_cons]
      rw [sortedRest] at apartRest
      -- The item stands where it would stand among those of its own part.
      cases isEarly : early item with
      | true =>
          obtain ⟨first, second, sortedEarly, sortedEarlyRest, firstItem, secondItem⟩ :=
            exists_mergeSort_cons trans total item (rest.filter early)
          rw [sortedEarlyRest, List.append_assoc] at apartRest
          obtain ⟨same, behindSame⟩ := append_inj_of_split (fun other => !le item other) apartRest
            (by simpa using beforeItem) (by simpa using behindItem) (by simpa using firstItem)
            (by
              intro other present
              obtain inSecond | late := List.mem_append.mp present
              · simp [secondItem other inSecond]
              · obtain ⟨inRest, isLate⟩ := lateOf late
                simp [(apart item List.mem_cons_self other (List.mem_cons_of_mem _ inRest)
                  isEarly isLate).1])
          simp only [if_true, Bool.not_true, Bool.false_eq_true, if_false]
          rw [sortedEarly, same, behindSame, List.append_assoc, List.cons_append]
      | false =>
          obtain ⟨first, second, sortedLate, sortedLateRest, firstItem, secondItem⟩ :=
            exists_mergeSort_cons trans total item (rest.filter fun item => !early item)
          rw [sortedLateRest, ← List.append_assoc] at apartRest
          obtain ⟨same, behindSame⟩ := append_inj_of_split (fun other => !le item other) apartRest
            (by simpa using beforeItem) (by simpa using behindItem)
            (by
              intro other present
              obtain isFirst | inFirst := List.mem_append.mp present
              · obtain ⟨inRest, isEarlyOther⟩ := earlyOf isFirst
                simp [(apart other (List.mem_cons_of_mem _ inRest) item List.mem_cons_self
                  isEarlyOther isEarly).2]
              · simp [firstItem other inFirst])
            (by simpa using secondItem)
          simp only [Bool.false_eq_true, if_false, Bool.not_false, if_true]
          rw [sortedLate, same, behindSame, List.append_assoc]

end Sorting

/-! ## The order of polls -/

theorem Poll.isBefore_iff (left right : Poll) :
    left.isBefore right = true ↔
      left.due < right.due ∨ left.due = right.due ∧ left.planned ≤ right.planned := by
  simp [Poll.isBefore]

theorem Poll.isBefore_trans (first second third : Poll)
    (early : first.isBefore second = true)
    (late : second.isBefore third = true) :
    first.isBefore third = true := by
  rw [Poll.isBefore_iff] at early late ⊢
  omega

theorem Poll.isBefore_total (first second : Poll) :
    (first.isBefore second || second.isBefore first) = true := by
  rw [Bool.or_eq_true, Poll.isBefore_iff, Poll.isBefore_iff]
  omega

/-- Whether a poll comes before something that is due at an instant after a wait. -/
def Poll.precedes (poll : Poll) (instant wait : Nat) : Bool :=
  poll.due < instant || poll.due == instant && poll.planned + wait < instant

theorem Poll.precedes_iff (poll : Poll) (instant wait : Nat) :
    poll.precedes instant wait = true ↔
      poll.due < instant ∨ poll.due = instant ∧ poll.planned + wait < instant := by
  simp [Poll.precedes]

/-- What comes before a report comes before every poll that does not. -/
theorem Poll.isBefore_of_precedes {first second : Poll} {instant wait : Nat}
    (precedes : first.precedes instant wait = true)
    (follows : second.precedes instant wait = false) :
    first.isBefore second = true ∧ second.isBefore first = false := by
  rw [← Bool.not_eq_true, Poll.isBefore_iff, Poll.isBefore_iff]
  rw [Poll.precedes_iff] at precedes
  rw [← Bool.not_eq_true, Poll.precedes_iff] at follows
  omega

namespace Collector

variable {collector : Collector} {instant wait : Nat}

/-- The polls before a report are the first ones of the collector. -/
theorem precedes_pollAt_iff (positive : 0 < collector.interval) (number : Nat) :
    (collector.pollAt number).precedes instant wait = true ↔
      number < collector.pollsBefore instant wait := by
  have next : (number + 1) * collector.interval =
      number * collector.interval + collector.interval := Nat.succ_mul _ _
  rw [Poll.precedes_iff]
  unfold pollAt pollsBefore pollsUntil
  dsimp only
  split
  next longer =>
    rw [Nat.lt_iff_add_one_le (m := number), Nat.le_div_iff_mul_le positive]
    omega
  next shorter =>
    rw [Nat.lt_iff_add_one_le (m := number), Nat.le_div_iff_mul_le positive]
    omega

theorem pollsBefore_le_pollsUntil {later : Nat} (ordered : instant ≤ later) :
    collector.pollsBefore instant wait ≤ collector.pollsUntil later := by
  unfold pollsBefore pollsUntil
  split
  · exact Nat.div_le_div_right ordered
  · exact Nat.div_le_div_right (by omega)

theorem pollsBefore_mono {later : Nat} (ordered : instant ≤ later) :
    collector.pollsBefore instant wait ≤ collector.pollsBefore later wait := by
  unfold pollsBefore pollsUntil
  split
  · exact Nat.div_le_div_right ordered
  · exact Nat.div_le_div_right (by omega)

theorem filter_firstPolls {early : Poll -> Bool} {few many : Nat}
    (fewer : few ≤ many)
    (early_iff : ∀ number, early (collector.pollAt number) = true ↔ number < few) :
    (collector.firstPolls many).filter early = collector.firstPolls few := by
  obtain ⟨more, rfl⟩ := Nat.exists_eq_add_of_le fewer
  unfold firstPolls
  rw [List.range_add, List.map_append, List.filter_append]
  have first : ((List.range few).map collector.pollAt).filter early =
      (List.range few).map collector.pollAt := by
    refine List.filter_eq_self.mpr ?_
    intro poll present
    obtain ⟨number, isFirst, rfl⟩ := List.mem_map.mp present
    exact (early_iff number).mpr (List.mem_range.mp isFirst)
  have second : (((List.range more).map (few + ·)).map collector.pollAt).filter early = [] := by
    refine List.filter_eq_nil_iff.mpr ?_
    intro poll present isEarly
    obtain ⟨number, isSecond, rfl⟩ := List.mem_map.mp present
    obtain ⟨offset, -, rfl⟩ := List.mem_map.mp isSecond
    have small := (early_iff _).mp isEarly
    omega
  rw [first, second, List.append_nil]

end Collector

namespace Sampler

variable {sampler : Sampler} {instant wait : Nat} {hasReported : Bool}

/-- A sampler makes all polls that are due before it is stopped, and none that is due later. -/
theorem pollsAtStop_bounds :
    sampler.collector.pollsUntil (instant - 1) ≤ sampler.pollsAtStop instant wait hasReported ∧
      sampler.pollsAtStop instant wait hasReported ≤ sampler.collector.pollsUntil instant := by
  have fewer : sampler.collector.pollsUntil (instant - 1) ≤
      sampler.collector.pollsUntil instant :=
    Nat.div_le_div_right (Nat.sub_le instant 1)
  unfold pollsAtStop Collector.pollsBefore
  split
  · exact ⟨fewer, Nat.le_refl _⟩
  · split
    · split
      · exact ⟨fewer, Nat.le_refl _⟩
      · exact ⟨Nat.le_refl _, fewer⟩
    · exact ⟨Nat.le_refl _, fewer⟩

/-- The polls before an earlier report have been made when a sampler is stopped, and so have those
before a report that is made at the same time. -/
theorem pollsBefore_le_pollsAtStop
    {earlier : Nat}
    (ordered : earlier ≤ instant)
    (reported : earlier = instant -> hasReported = true) :
    sampler.collector.pollsBefore earlier wait ≤
      sampler.pollsAtStop instant wait hasReported := by
  rcases Nat.lt_or_eq_of_le ordered with before | rfl
  · have within : earlier ≤ instant - 1 := by omega
    exact Nat.le_trans (Collector.pollsBefore_le_pollsUntil within) pollsAtStop_bounds.1
  · rw [pollsAtStop, reported rfl, if_pos rfl]
    split
    · exact Collector.pollsBefore_le_pollsUntil (Nat.le_refl _)
    · exact Nat.le_refl _

end Sampler

/-! ## The polls of all collectors -/

namespace Plan

theorem collector_mem_of_mem_samplers {plan : Plan} {sampler : Sampler}
    (present : sampler ∈ plan.samplers) :
    sampler.collector ∈ plan.collectors := by
  obtain ⟨number, within, rfl⟩ := List.mem_mapIdx.mp present
  exact List.getElem_mem within

/-- The polls that each sampler makes, one after another. -/
def log (plan : Plan) (counts : Sampler -> Nat) : List Poll :=
  (plan.polls counts).mergeSort Poll.isBefore

theorem filter_polls {plan : Plan} {early : Poll -> Bool} {few many : Sampler -> Nat}
    (fewer : ∀ sampler ∈ plan.samplers, few sampler ≤ many sampler)
    (early_iff : ∀ sampler ∈ plan.samplers, ∀ number,
      early (sampler.collector.pollAt number) = true ↔ number < few sampler) :
    (plan.polls many).filter early = plan.polls few := by
  unfold polls
  rw [List.filter_flatMap]
  refine List.flatMap_congr ?_
  intro sampler present
  exact Collector.filter_firstPolls (fewer sampler present) (early_iff sampler present)

/-- The polls before a report are a first part of all polls. -/
theorem exists_log_eq {plan : Plan} {instant : Nat} {counts : Sampler -> Nat}
    (positive : ∀ collector ∈ plan.collectors, 0 < collector.interval)
    (wait : Nat)
    (fewer : ∀ sampler ∈ plan.samplers,
      sampler.collector.pollsBefore instant wait ≤ counts sampler) :
    ∃ rest,
      plan.log counts =
        (plan.polls fun sampler => sampler.collector.pollsBefore instant wait).mergeSort
          Poll.isBefore ++ rest ∧
      (∀ poll ∈ plan.polls fun sampler => sampler.collector.pollsBefore instant wait,
        poll.due ≤ instant) ∧
      ∀ poll ∈ rest, instant ≤ poll.due := by
  have early : (plan.polls counts).filter (fun poll => poll.precedes instant wait) =
      plan.polls fun sampler => sampler.collector.pollsBefore instant wait :=
    filter_polls fewer fun _ present =>
      Collector.precedes_pollAt_iff (positive _ (collector_mem_of_mem_samplers present))
  refine ⟨((plan.polls counts).filter fun poll => !poll.precedes instant wait).mergeSort
    Poll.isBefore, ?_, ?_, ?_⟩
  · unfold log
    rw [← early]
    exact mergeSort_eq_append Poll.isBefore_trans Poll.isBefore_total _
      (fun _ _ _ _ => Poll.isBefore_of_precedes)
  · intro poll present
    rw [← early] at present
    have precedes := (poll.precedes_iff instant wait).mp (List.mem_filter.mp present).2
    omega
  · intro poll present
    have follows := (List.mem_filter.mp (List.mem_mergeSort.mp present)).2
    rw [Bool.not_eq_true', ← Bool.not_eq_true, Poll.precedes_iff] at follows
    omega

theorem due_le_of_mem_log {plan : Plan} {instant : Nat} {counts : Sampler -> Nat} {poll : Poll}
    (positive : ∀ collector ∈ plan.collectors, 0 < collector.interval)
    (few : ∀ sampler ∈ plan.samplers, counts sampler ≤ sampler.collector.pollsUntil instant)
    (present : poll ∈ plan.log counts) :
    poll.due ≤ instant := by
  obtain ⟨sampler, isSampler, isPoll⟩ := List.mem_flatMap.mp (List.mem_mergeSort.mp present)
  obtain ⟨number, made, rfl⟩ := List.mem_map.mp isPoll
  have made := Nat.lt_of_lt_of_le (List.mem_range.mp made) (few sampler isSampler)
  have waits := positive _ (collector_mem_of_mem_samplers isSampler)
  unfold Collector.pollsUntil at made
  rw [Nat.lt_iff_add_one_le, Nat.le_div_iff_mul_le waits] at made
  exact made

end Plan
end Agent
end Telemetry
