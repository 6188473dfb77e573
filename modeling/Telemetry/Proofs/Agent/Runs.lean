import Telemetry.Proofs.Agent.Mirror

/-!
# What a run of an agent does

The batches of an agent are what its store contained when they were taken, they
are sent one and all by the dispatcher, and the last of them tells of every
poll that was made.
-/

namespace Telemetry
namespace Agent

open Dispatch (Robust)

/-! ## The store between polls -/

namespace Plan

/-- The store after polls, one after another. -/
def storeMade (plan : Plan) (polls : List Poll) : Store :=
  plan.seed.applyAll (polls.flatMap Poll.updates)

/-- The polls that were made before a moment, of all that were made. -/
structure MadeBefore (all made : List Poll) (moment : Nat) : Prop where
  /-- They are the first of all polls. -/
  first : made <+: all
  early : ∀ poll ∈ made, poll.due ≤ moment
  late : ∀ poll ∈ all.drop made.length, moment ≤ poll.due

/-- How many polls a sampler has made when the agent has stopped it. -/
def pollsOf (plan : Plan) (run : Run) (sampler : Sampler) : Nat :=
  sampler.pollsAtStop run.leftAt plan.reportInterval run.hasReported

/-- How many polls the collectors of a name have made when they have been stopped. -/
def pollsMade (plan : Plan) (run : Run) (name : String) : Nat :=
  plan.pollCount (plan.pollsOf run) name

variable {plan : Plan}

/-- The polls before a report have been made when the collectors are stopped. -/
theorem pollsBefore_le_pollsOf {run : Run} {send : Send}
    (present : send ∈ run.reports) (ordered : send.taken ≤ run.leftAt) (sampler : Sampler) :
    sampler.collector.pollsBefore send.taken plan.reportInterval ≤ plan.pollsOf run sampler := by
  refine Sampler.pollsBefore_le_pollsAtStop ordered fun last => ?_
  exact List.any_eq_true.mpr ⟨send, present, beq_iff_eq.mpr last⟩

/-- A report finds the store as the polls before it have left it. -/
theorem CountsPolls.exists_storeAt_eq {instant : Nat} {counts : Sampler -> Nat}
    (countsPolls : plan.CountsPolls)
    (fewer : ∀ sampler,
      sampler.collector.pollsBefore instant plan.reportInterval ≤ counts sampler) :
    ∃ made, MadeBefore (plan.log counts) made instant ∧
      plan.storeAt instant = plan.storeMade made := by
  obtain ⟨rest, split, early, late⟩ :=
    exists_log_eq countsPolls.positive plan.reportInterval fun sampler _ => fewer sampler
  refine ⟨_, ⟨⟨rest, split.symm⟩, ?_, ?_⟩, rfl⟩
  · intro poll present
    exact early poll (List.mem_mergeSort.mp present)
  · rw [split, List.drop_left]
    exact late

/-- The last report finds the store as all polls have left it. -/
theorem CountsPolls.madeBefore_log (countsPolls : plan.CountsPolls) (run : Run) :
    MadeBefore (plan.log (plan.pollsOf run)) (plan.log (plan.pollsOf run)) run.leftAt where
  first := List.prefix_rfl
  early := fun _ present =>
    due_le_of_mem_log countsPolls.positive (fun _ _ => Sampler.pollsAtStop_bounds.2) present
  late := by
    rw [List.drop_length]
    exact fun _ never => nomatch never

/-! ## What a plan promises -/

/-- What an agent does whose collectors count their polls. -/
structure IsFulfilledBy (plan : Plan) (run : Run) : Prop where
  /-- The agent reports until it is stopped. -/
  stopped : plan.stopAt ≤ run.leftAt
  /-- A collector is polled each time that a poll is due until the agent leaves off reporting.  A
  poll that is due just then is made too, unless the stop of the collector goes first. -/
  polled : ∀ sampler ∈ plan.samplers,
    sampler.collector.pollsUntil (run.leftAt - 1) ≤ plan.pollsOf run sampler ∧
      plan.pollsOf run sampler ≤ sampler.collector.pollsUntil run.leftAt ∧
      (sampler.stopsFirst = false ->
        plan.pollsOf run sampler = sampler.collector.pollsUntil run.leftAt)
  /-- No batch is empty. -/
  filled : ∀ send ∈ run.sends, send.batch ≠ []
  /-- A batch is the content of the store at the moment when it was taken. -/
  content : ∀ send ∈ run.sends, ∃ made,
    MadeBefore (plan.log (plan.pollsOf run)) made send.taken ∧
      send.batch = (plan.storeMade made).metrics
  /-- A worker takes a batch at once or later, and sends it for its span. -/
  spans : ∀ number send, run.sends[number]? = some send ->
    send.taken ≤ send.start ∧ send.finish = send.start + plan.sendSpan number
  /-- A batch is taken from the store once a worker has taken the one before it. -/
  inTurn : run.sends.Pairwise fun early late => early.start ≤ late.taken
  /-- There are never more sends at a time than the limit, or one, allows. -/
  bounded : ∀ instant,
    (run.sends.countP fun send => send.isGoingOn instant) ≤ max plan.rateLimit 1
  /-- Every batch is sent exactly once, by a dispatcher to which it is submitted when it is taken,
  whichever sends fail. -/
  served : ∀ outcome, Robust outcome ->
    ∃ script, Serves outcome plan.rateLimit run.sends run.closedAt script
  /-- From one batch to a later one no fewer polls are told of. -/
  rising : ∀ collector ∈ plan.collectors, run.sends.Pairwise fun early late =>
    ∃ few many, few ≤ many ∧ many ≤ plan.pollsMade run collector.name ∧
      Tells early.batch collector.name few ∧ Tells late.batch collector.name many
  /-- So no counter of polls ever decreases, as long as the polls can be counted. -/
  monotone : ∀ collector ∈ plan.collectors,
    plan.pollsMade run collector.name < counterBound ->
      run.sends.Pairwise fun early late => ∀ earlyValue lateValue,
        (Update.counter (tallyName collector.name) earlyValue).toMetric ∈ early.batch ->
          (Update.counter (tallyName collector.name) lateValue).toMetric ∈ late.batch ->
            earlyValue ≤ lateValue
  /-- The reports have been taken by a worker when the agent leaves off reporting. -/
  reported : ∀ send ∈ run.reports, send.start ≤ run.leftAt
  /-- There is a last report unless the store is empty after all polls. -/
  final_eq_none_iff :
    run.final = none ↔ (plan.storeMade (plan.log (plan.pollsOf run))).isEmpty = true
  /-- The last report is made after all polls, and tells of all of them. -/
  final : ∀ send, run.final = some send ->
    run.sends = run.reports ++ [send] ∧ send.taken = run.leftAt ∧
      send.batch = (plan.storeMade (plan.log (plan.pollsOf run))).metrics ∧
      ∀ collector ∈ plan.collectors,
        Tells send.batch collector.name (plan.pollsMade run collector.name)
  /-- The sender is closed after every send has ended. -/
  closed : run.leftAt ≤ run.closedAt ∧ ∀ send ∈ run.sends, send.finish ≤ run.closedAt

/-! ## What every run keeps -/

namespace CountsPolls

variable {send early late : Send} {collector : Collector}

theorem taken_le_leftAt (present : send ∈ plan.run.reports) : send.taken ≤ plan.run.leftAt := by
  have isReport := List.mem_reverse.mp present
  have started := plan.timely_reported.started send isReport
  exact Nat.le_trans (plan.timely_reported.taken_le_start isReport)
    (Nat.le_trans started plan.now_reported_le_leftAt)

/-- A report tells of the polls before it. -/
theorem tells_of_report
    (countsPolls : plan.CountsPolls)
    (isCollector : collector ∈ plan.collectors)
    (present : send ∈ plan.run.reports) :
    Tells send.batch collector.name
      (plan.pollCount (fun other => other.collector.pollsBefore send.taken plan.reportInterval)
        collector.name) := by
  rw [(plan.truthful_reported send (List.mem_reverse.mp present)).1]
  exact countsPolls.tells_pollAll isCollector _

/-- The last report tells of all polls. -/
theorem tells_of_final
    (countsPolls : plan.CountsPolls)
    (isCollector : collector ∈ plan.collectors)
    (last : plan.run.final = some send) :
    Tells send.batch collector.name (plan.pollsMade plan.run collector.name) := by
  rw [(plan.eq_of_final_run last).2.1]
  exact countsPolls.tells_pollAll isCollector _

theorem pollCount_le_pollsMade (present : send ∈ plan.run.reports) (name : String) :
    plan.pollCount (fun other => other.collector.pollsBefore send.taken plan.reportInterval) name ≤
      plan.pollsMade plan.run name :=
  pollCount_mono (pollsBefore_le_pollsOf present (taken_le_leftAt present)) name

theorem rising
    (countsPolls : plan.CountsPolls)
    (isCollector : collector ∈ plan.collectors) :
    plan.run.sends.Pairwise fun early late =>
      ∃ few many, few ≤ many ∧ many ≤ plan.pollsMade plan.run collector.name ∧
        Tells early.batch collector.name few ∧ Tells late.batch collector.name many := by
  unfold Run.sends
  refine List.pairwise_append.mpr ⟨?_, ?_, ?_⟩
  · rw [plan.reports_run, List.pairwise_reverse]
    refine plan.timely_reported.inTurn.imp_of_mem ?_
    intro late early isLate isEarly ordered
    have reports (send : Send) (present : send ∈ plan.reported.sends) :
        send ∈ plan.run.reports :=
      List.mem_reverse.mpr present
    refine ⟨_, _, pollCount_mono (fun other => ?_) _,
      pollCount_le_pollsMade (reports late isLate) _,
      countsPolls.tells_of_report isCollector (reports early isEarly),
      countsPolls.tells_of_report isCollector (reports late isLate)⟩
    refine Collector.pollsBefore_mono (Nat.le_trans ?_ ordered)
    exact plan.timely_reported.taken_le_start isEarly
  · cases plan.run.final with
    | none => exact List.Pairwise.nil
    | some last => exact List.pairwise_singleton _ _
  · intro early isReport late isFinal
    have last := Option.mem_toList.mp isFinal
    exact ⟨_, _, pollCount_le_pollsMade isReport _, Nat.le_refl _,
      countsPolls.tells_of_report isCollector isReport,
      countsPolls.tells_of_final isCollector last⟩

/-- Every batch is the content of the store at the moment when it was taken, and is not empty. -/
theorem content
    (countsPolls : plan.CountsPolls)
    (present : send ∈ plan.run.sends) :
    send.batch ≠ [] ∧ ∃ made, MadeBefore (plan.log (plan.pollsOf plan.run)) made send.taken ∧
      send.batch = (plan.storeMade made).metrics := by
  obtain isReport | isFinal := List.mem_append.mp present
  · obtain ⟨batch, filled⟩ := plan.truthful_reported send (List.mem_reverse.mp isReport)
    obtain ⟨made, before, store⟩ :=
      countsPolls.exists_storeAt_eq (pollsBefore_le_pollsOf isReport (taken_le_leftAt isReport))
    rw [batch]
    refine ⟨?_, made, before, by rw [store]⟩
    rw [Ne, Store.metrics_eq_nil_iff, filled]
    exact Bool.false_ne_true
  · obtain ⟨taken, batch, filled⟩ := plan.eq_of_final_run (Option.mem_toList.mp isFinal)
    rw [batch, taken]
    refine ⟨?_, _, countsPolls.madeBefore_log plan.run, rfl⟩
    rw [Ne, Store.metrics_eq_nil_iff, filled]
    exact Bool.false_ne_true

end CountsPolls

/-- Every run of an agent whose collectors count their polls does what the plan promises. -/
theorem run_fulfils (plan : Plan) (countsPolls : plan.CountsPolls) :
    plan.IsFulfilledBy plan.run := by
  have timely := plan.timely_concluded
  constructor
  case stopped =>
    rw [plan.leftAt_run]
    exact Nat.le_max_right _ _
  case polled =>
    intro sampler _
    refine ⟨Sampler.pollsAtStop_bounds.1, Sampler.pollsAtStop_bounds.2, fun pollsFirst => ?_⟩
    rw [pollsOf, Sampler.pollsAtStop, pollsFirst]
    rfl
  case filled => exact fun send present => (countsPolls.content present).1
  case content => exact fun send present => (countsPolls.content present).2
  case spans =>
    rw [plan.sends_run]
    exact timely.spans
  case inTurn =>
    rw [plan.sends_run, List.pairwise_reverse]
    exact timely.inTurn
  case bounded =>
    intro instant
    rw [plan.sends_run, List.countP_reverse]
    exact timely.bounded instant
  case served => exact fun outcome robust => plan.exists_serves robust
  case rising => exact fun collector isCollector => countsPolls.rising isCollector
  case monotone =>
    intro collector isCollector fits
    refine (countsPolls.rising isCollector).imp ?_
    rintro early late ⟨few, many, fewer, most, tellsFew, tellsMany⟩ earlyValue lateValue
    exact tellsFew.le_of_le tellsMany fewer (Nat.lt_of_le_of_lt most fits)
  case reported =>
    intro send present
    exact Nat.le_trans (plan.timely_reported.started send (List.mem_reverse.mp present))
      plan.now_reported_le_leftAt
  case final_eq_none_iff => exact plan.final_run_eq_none_iff
  case final =>
    intro send last
    obtain ⟨taken, batch, -⟩ := plan.eq_of_final_run last
    refine ⟨?_, taken, batch, ?_⟩
    · rw [Run.sends, last]
      rfl
    · exact fun collector isCollector => countsPolls.tells_of_final isCollector last
  case closed =>
    refine ⟨Nat.le_trans plan.leftAt_le_now_concluded plan.concluded.now_le_lastFree, ?_⟩
    intro send present
    rw [plan.sends_run] at present
    exact timely.finish_le_lastFree (List.mem_reverse.mp present)

/-! ## Collectors that do nothing but count -/

theorem countsPolls_of_counting
    (counting : ∀ collector ∈ plan.collectors, 0 < collector.interval ∧
      collector.poll = fun _ => [.counter (tallyName collector.name) 1])
    (absent : ∀ collector ∈ plan.collectors,
      plan.seed.counter? (tallyName collector.name) = none) :
    plan.CountsPolls where
  positive := fun collector present => (counting collector present).1
  absent := absent
  own := by
    intro collector present number
    rw [(counting collector present).2]
    simp [Update.delta?]
  other := by
    intro collector present second _ different number
    have names : tallyName collector.name ≠ tallyName second.name := by
      simpa [tallyName] using different
    rw [(counting collector present).2]
    simp [Update.delta?, names]

/-- Two collectors whose polls fall between reports that a slow worker delays.  Both are due when
the agent is stopped, and one of them is stopped first. -/
def delayedReports : Plan where
  collectors :=
    [⟨"disk", 3, fun _ => [.counter "disk.polls" 1]⟩,
      ⟨"load", 4, fun _ => [.counter "load.polls" 1]⟩]
  reportInterval := 10
  reportInterval_pos := by decide
  rateLimit := 1
  stopAt := 24
  sendSpan := fun _ => 12
  stopsFirst := fun number => number == 0

/-- Slow sends do not keep an agent from telling of every poll. -/
theorem delayedReports_fulfilled :
    delayedReports.CountsPolls ∧ delayedReports.IsFulfilledBy delayedReports.run := by
  have countsPolls : delayedReports.CountsPolls := by
    refine countsPolls_of_counting ?_ ?_
    · intro collector present
      simp only [delayedReports, List.mem_cons, List.not_mem_nil, or_false] at present
      obtain rfl | rfl := present
      · exact ⟨by decide, rfl⟩
      · exact ⟨by decide, rfl⟩
    · exact fun _ _ => rfl
  exact ⟨countsPolls, run_fulfils delayedReports countsPolls⟩

end Plan
end Agent
end Telemetry
