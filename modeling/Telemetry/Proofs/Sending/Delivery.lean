import Mathlib.Data.Nat.Find
import Mathlib.Order.MinMax
import Telemetry.Proofs.Retry
import Telemetry.Sending.Delivery

/-!
# How deliveries end

A delivery makes its attempts at times that the attempts before them settle.  It
ends with an attempt that succeeds, with the one behind all delays or in a wait
that is cancelled, if that is in time, and at the deadline otherwise.  For every
course of the attempts there is one way to end only, so the conditions on the
attempts tell which one it is.
-/

namespace Telemetry
namespace Sending

/-- The delays between attempts in nanoseconds. -/
def Patience.delays (patience : Patience) : List Nat :=
  patience.schedule.map TimeSpan.nanoseconds

/-- The attempts that are made when there is no deadline; every failure is worth another attempt. -/
def Patience.run (patience : Patience) (attempt : Nat -> Attempt AttemptError Unit) :
    RetryRun AttemptError Unit :=
  Retry.run (fun _ => true) patience.delays (patience.cancelAt.map TimeSpan.nanoseconds) attempt

namespace Delivery

section Endings

variable (patience : Patience) (attempt : Nat -> Attempt AttemptError Unit)

/-- When an attempt starts, if the delivery gets to it. -/
def startAt (number : Nat) : Nat :=
  Retry.startOf patience.delays attempt number

/-- When an attempt ends, if the delivery gets to it. -/
def endAt (number : Nat) : Nat :=
  Retry.finishOf patience.delays attempt number

/-- An attempt fails. -/
def Fails (number : Nat) : Prop :=
  ∃ failure, (attempt number).outcome = .error failure

/-- The cancellation comes before the end of the wait after an attempt. -/
def IsCut (number : Nat) (instant : TimeSpan) : Prop :=
  patience.cancelAt = some instant ∧ instant.nanoseconds < startAt patience attempt (number + 1)

/-- A delivery with no deadline gets to an attempt: those before it fail, and no wait between them
is cut short. -/
structure Reaches (number : Nat) : Prop where
  le_length : number ≤ patience.schedule.length
  fails : ∀ earlier < number, Fails attempt earlier
  uncut : ∀ earlier < number, ∀ instant, ¬ IsCut patience attempt earlier instant

/-- A failed attempt is followed by a wait, if there is a delay for it. -/
structure Waits (number : Nat) : Prop where
  lt_length : number < patience.schedule.length
  fails : Fails attempt number

/-- How a delivery with no deadline ends after an attempt: when, and with which result. -/
inductive Concludes (number : Nat) : Nat -> Except SendError Unit -> Prop
  | delivered (taken : (attempt number).outcome = .ok ()) :
      Concludes number (endAt patience attempt number) (.ok ())
  | exhausted {failure : AttemptError} (last : number = patience.schedule.length)
      (failed : (attempt number).outcome = .error failure) :
      Concludes number (endAt patience attempt number) (.error (.exhausted (number + 1) failure))
  | cancelled {instant : TimeSpan} (waits : Waits patience attempt number)
      (cut : IsCut patience attempt number instant) :
      Concludes number (max instant.nanoseconds (endAt patience attempt number))
        (.error .cancelled)

/-- How a delivery ends after an attempt.  What is not done by the deadline is given up, be it the
attempt or the wait after it. -/
inductive Ends (number : Nat) : Nat -> Except SendError Unit -> Prop
  | inTime {finish : Nat} {result : Except SendError Unit}
      (concludes : Concludes patience attempt number finish result)
      (inTime : finish ≤ patience.deadline.nanoseconds) :
      Ends number finish result
  | attempting (started : startAt patience attempt number ≤ patience.deadline.nanoseconds)
      (attempts : patience.deadline.nanoseconds < endAt patience attempt number) :
      Ends number patience.deadline.nanoseconds (.error (.late patience.deadline))
  | waiting (waits : Waits patience attempt number)
      (ended : endAt patience attempt number ≤ patience.deadline.nanoseconds)
      (waitsOn : patience.deadline.nanoseconds < startAt patience attempt (number + 1))
      (uncut : ∀ instant, patience.cancelAt = some instant ->
        patience.deadline.nanoseconds < instant.nanoseconds) :
      Ends number patience.deadline.nanoseconds (.error (.late patience.deadline))

/-- A delivery makes all attempts up to one, and ends after it. -/
structure StopsAfter (number : Nat) (delivery : Delivery) : Prop where
  reaches : Reaches patience attempt number
  starts_eq : delivery.starts = (List.range (number + 1)).map (startAt patience attempt)
  ends : Ends patience attempt number delivery.finish delivery.result

end Endings

variable {patience : Patience} {attempt : Nat -> Attempt AttemptError Unit}

/-! ## A delivery ends in one of the ways -/

theorem length_delays (patience : Patience) :
    patience.delays.length = patience.schedule.length :=
  List.length_map _

theorem endAt_le_startAt_succ (patience : Patience) (attempt : Nat -> Attempt AttemptError Unit)
    (number : Nat) :
    endAt patience attempt number ≤ startAt patience attempt (number + 1) :=
  Nat.le_add_right _ _

theorem startAt_le_endAt (patience : Patience) (attempt : Nat -> Attempt AttemptError Unit)
    (number : Nat) :
    startAt patience attempt number ≤ endAt patience attempt number :=
  Nat.le_add_right _ _

/-- An attempt at a delivery settles it exactly if it does not fail. -/
theorem fails_iff (number : Nat) :
    Fails attempt number ↔
      Retry.settles (fun _ => true) (attempt number).outcome = false := by
  unfold Fails
  cases (attempt number).outcome <;> simp [Retry.settles]

/-- What has failed up to an attempt has failed up to every earlier one. -/
theorem Reaches.earlier
    {number earlier : Nat}
    (reaches : Reaches patience attempt number)
    (le : earlier ≤ number) :
    Reaches patience attempt earlier where
  le_length := le.trans reaches.le_length
  fails := fun before less => reaches.fails before (less.trans_le le)
  uncut := fun before less => reaches.uncut before (less.trans_le le)

/-- The last attempt if no wait is cut short: the first that succeeds, or else the one behind all
delays. -/
def lastAttempt (patience : Patience) (attempt : Nat -> Attempt AttemptError Unit) : Nat :=
  Retry.lastAttempt (fun _ => true) patience.delays.length attempt

theorem lastAttempt_le_length (patience : Patience) (attempt : Nat -> Attempt AttemptError Unit) :
    lastAttempt patience attempt ≤ patience.schedule.length :=
  length_delays patience ▸ Retry.lastAttempt_le ..

theorem fails_of_lt_lastAttempt
    {number : Nat}
    (before : number < lastAttempt patience attempt) :
    Fails attempt number :=
  (fails_iff number).mpr (Retry.not_settles_of_lt_lastAttempt before)

/-- The last attempt has a value, or there is no delay behind it. -/
theorem concludes_lastAttempt (patience : Patience) (attempt : Nat -> Attempt AttemptError Unit) :
    Concludes patience attempt (lastAttempt patience attempt)
      (endAt patience attempt (lastAttempt patience attempt))
      ((Retry.conclusion (fun _ => true) patience.delays.length
        (attempt (lastAttempt patience attempt)).outcome).mapError SendError.ofRetry) := by
  cases outcome : (attempt (lastAttempt patience attempt)).outcome with
  | ok value => exact .delivered outcome
  | error failure =>
      have full : lastAttempt patience attempt = patience.schedule.length := by
        refine (Nat.lt_or_eq_of_le (lastAttempt_le_length patience attempt)).resolve_left ?_
        intro early
        have settled := Retry.settles_lastAttempt (length_delays patience ▸ early)
        have failed := (fails_iff (lastAttempt patience attempt)).mp ⟨failure, outcome⟩
        exact Bool.false_ne_true (failed.symm.trans settled)
      rw [length_delays, ← full]
      exact .exhausted full outcome

/-- The first wait that is cut short ends a run. -/
theorem run_of_cut
    {number : Nat} {instant : TimeSpan}
    (before : number < lastAttempt patience attempt)
    (cut : IsCut patience attempt number instant)
    (uncut : ∀ earlier < number, ∀ instant, ¬ IsCut patience attempt earlier instant) :
    patience.run attempt =
      ⟨(List.range (number + 1)).map (startAt patience attempt),
        max instant.nanoseconds (endAt patience attempt number), .error .cancelled⟩ := by
  obtain ⟨cancels, early⟩ := cut
  refine Retry.run_cancelled (by rw [cancels]; rfl) before early fun earlier less => ?_
  exact Nat.le_of_not_lt fun isEarly => uncut earlier less instant ⟨cancels, isEarly⟩

/-- A run with no wait cut short ends with its last attempt. -/
theorem run_of_uncut
    (uncut : ∀ number < lastAttempt patience attempt, ∀ instant,
      ¬ IsCut patience attempt number instant) :
    patience.run attempt =
      ⟨(List.range (lastAttempt patience attempt + 1)).map (startAt patience attempt),
        endAt patience attempt (lastAttempt patience attempt),
        Retry.conclusion (fun _ => true) patience.delays.length
          (attempt (lastAttempt patience attempt)).outcome⟩ := by
  refine Retry.run_concluded fun instant cancels number before => ?_
  obtain ⟨span, given, rfl⟩ := Option.map_eq_some_iff.mp cancels
  exact Nat.le_of_not_lt fun isEarly => uncut number before span ⟨given, isEarly⟩

/-- A run of attempts gets to an attempt and ends after it. -/
theorem exists_concludes (patience : Patience) (attempt : Nat -> Attempt AttemptError Unit) :
    ∃ number, Reaches patience attempt number ∧
      (patience.run attempt).starts = (List.range (number + 1)).map (startAt patience attempt) ∧
      Concludes patience attempt number (patience.run attempt).finish
        ((patience.run attempt).result.mapError SendError.ofRetry) := by
  have within := lastAttempt_le_length patience attempt
  by_cases cut : ∃ number, number < lastAttempt patience attempt ∧
      ∃ instant, IsCut patience attempt number instant
  · classical
    obtain ⟨before, instant, isCut⟩ := Nat.find_spec cut
    have uncut : ∀ earlier < Nat.find cut, ∀ instant, ¬ IsCut patience attempt earlier instant :=
      fun earlier less instant isCut =>
        Nat.find_min cut less ⟨less.trans before, instant, isCut⟩
    refine ⟨Nat.find cut, ⟨(Nat.le_of_lt before).trans within,
      fun earlier less => fails_of_lt_lastAttempt (less.trans before), uncut⟩, ?_⟩
    rw [run_of_cut before isCut uncut]
    exact ⟨rfl, .cancelled ⟨before.trans_le within, fails_of_lt_lastAttempt before⟩ isCut⟩
  · have uncut : ∀ number < lastAttempt patience attempt, ∀ instant,
        ¬ IsCut patience attempt number instant :=
      fun number before instant isCut => cut ⟨number, before, instant, isCut⟩
    refine ⟨lastAttempt patience attempt,
      ⟨within, fun _ before => fails_of_lt_lastAttempt before, uncut⟩, ?_⟩
    rw [run_of_uncut uncut]
    exact ⟨rfl, concludes_lastAttempt patience attempt⟩

/-- What starts by an instant, of what starts one after another. -/
theorem filter_map_range
    {start : Nat -> Nat} {number last instant : Nat}
    (mono : Monotone start)
    (le : number ≤ last)
    (started : start number ≤ instant)
    (next : number < last -> instant < start (number + 1)) :
    ((List.range (last + 1)).map start).filter (· ≤ instant) =
      (List.range (number + 1)).map start := by
  obtain ⟨more, rfl⟩ := Nat.exists_eq_add_of_le le
  have split : List.range (number + more + 1) =
      List.range (number + 1) ++ (List.range more).map (number + 1 + ·) := by
    rw [← List.range_add, Nat.add_right_comm]
  rw [split, List.map_append, List.filter_append, List.filter_eq_self.mpr,
    List.filter_eq_nil_iff.mpr, List.append_nil]
  · intro time inside
    simp only [List.map_map, List.mem_map, List.mem_range, Function.comp_apply] at inside
    obtain ⟨further, less, rfl⟩ := inside
    have later : instant < start (number + 1 + further) :=
      (next (by omega)).trans_le (mono (Nat.le_add_right _ _))
    simpa using later
  · intro time inside
    obtain ⟨earlier, before, rfl⟩ := List.mem_map.mp inside
    exact decide_eq_true ((mono (Nat.le_of_lt_succ (List.mem_range.mp before))).trans started)

/-- A run that is not done by the deadline is given up in the last attempt that starts by then or in
the wait after it. -/
theorem exists_ends_late
    {last finish : Nat} {result : Except SendError Unit}
    (reaches : Reaches patience attempt last)
    (concludes : Concludes patience attempt last finish result)
    (late : patience.deadline.nanoseconds < finish) :
    ∃ number ≤ last, startAt patience attempt number ≤ patience.deadline.nanoseconds ∧
      (number < last -> patience.deadline.nanoseconds < startAt patience attempt (number + 1)) ∧
      Ends patience attempt number patience.deadline.nanoseconds
        (.error (.late patience.deadline)) := by
  let starts (number : Nat) : Prop :=
    startAt patience attempt number ≤ patience.deadline.nanoseconds
  let number := Nat.findGreatest starts last
  have le : number ≤ last := Nat.findGreatest_le last
  have started : starts number := Nat.findGreatest_spec (Nat.zero_le last) (Nat.zero_le _)
  have next (less : number < last) :
      patience.deadline.nanoseconds < startAt patience attempt (number + 1) :=
    Nat.lt_of_not_le (Nat.findGreatest_is_greatest (P := starts) (Nat.lt_succ_self number) less)
  refine ⟨number, le, started, next, ?_⟩
  rcases Nat.lt_or_ge patience.deadline.nanoseconds (endAt patience attempt number) with
    attempts | ended
  · exact .attempting started attempts
  rcases Nat.lt_or_eq_of_le le with less | same
  · have waits : Waits patience attempt number :=
      ⟨less.trans_le reaches.le_length, reaches.fails number less⟩
    refine .waiting waits ended (next less) ?_
    intro instant cancels
    have kept : ¬ instant.nanoseconds < startAt patience attempt (number + 1) :=
      fun early => reaches.uncut number less instant ⟨cancels, early⟩
    exact (next less).trans_le (Nat.le_of_not_lt kept)
  -- The last attempt has ended in time but the run has not, so its wait was to be cut short later.
  · rw [same] at ended ⊢
    cases concludes with
    | delivered taken => exact absurd late (Nat.not_lt.mpr ended)
    | exhausted full failed => exact absurd late (Nat.not_lt.mpr ended)
    | cancelled waits cut =>
        have lateInstant := (lt_max_iff.mp late).resolve_right (Nat.not_lt.mpr ended)
        refine .waiting waits ended (lateInstant.trans cut.2) fun other cancels => ?_
        rwa [Option.some.inj (cancels.symm.trans cut.1)]

/-- A delivery ends in one of the ways. -/
theorem exists_stopsAfter (patience : Patience) (attempt : Nat -> Attempt AttemptError Unit) :
    ∃ number, StopsAfter patience attempt number (make patience attempt) := by
  obtain ⟨last, reaches, starts_eq, concludes⟩ := exists_concludes patience attempt
  have made : make patience attempt = ofRun patience.deadline (patience.run attempt) := rfl
  rcases Nat.lt_or_ge patience.deadline.nanoseconds (patience.run attempt).finish with late | inTime
  · obtain ⟨number, le, started, next, ends⟩ := exists_ends_late reaches concludes late
    refine ⟨number, reaches.earlier le, ?_, ?_⟩
    · rw [made, ofRun, if_neg (Nat.not_le.mpr late), starts_eq]
      exact filter_map_range (Retry.startOf_mono _ _) le started next
    · rw [made, ofRun, if_neg (Nat.not_le.mpr late)]
      exact ends
  · refine ⟨last, reaches, ?_, ?_⟩
    · rw [made, ofRun, if_pos inTime]
      exact starts_eq
    · rw [made, ofRun, if_pos inTime]
      exact .inTime concludes inTime

/-! ## There is one way only -/

section Unique

variable {number other finish otherFinish : Nat} {result otherResult : Except SendError Unit}

theorem Concludes.endAt_le
    (concludes : Concludes patience attempt number finish result) :
    endAt patience attempt number ≤ finish := by
  cases concludes with
  | delivered taken => exact Nat.le_refl _
  | exhausted last failed => exact Nat.le_refl _
  | cancelled waits cut => exact le_max_right _ _

/-- An attempt after which a delivery ends has started in time. -/
theorem Ends.startAt_le
    (ends : Ends patience attempt number finish result) :
    startAt patience attempt number ≤ patience.deadline.nanoseconds := by
  have started := startAt_le_endAt patience attempt number
  cases ends with
  | inTime concludes inTime => exact (started.trans concludes.endAt_le).trans inTime
  | attempting started attempts => exact started
  | waiting waits ended waitsOn uncut => exact started.trans ended

/-- After the end there is no further attempt in time. -/
theorem Ends.not_reaches_later
    (ends : Ends patience attempt number finish result)
    (later : number < other)
    (reaches : Reaches patience attempt other) :
    patience.deadline.nanoseconds < startAt patience attempt other := by
  have next : startAt patience attempt (number + 1) ≤ startAt patience attempt other :=
    Retry.startOf_mono _ _ later
  obtain ⟨failure, failed⟩ := reaches.fails number later
  cases ends with
  | inTime concludes inTime =>
      exfalso
      cases concludes with
      | delivered taken => cases failed.symm.trans taken
      | exhausted last failed =>
          exact absurd (later.trans_le reaches.le_length) (last ▸ lt_irrefl _)
      | cancelled waits cut => exact reaches.uncut number later _ cut
  | attempting started attempts =>
      exact (attempts.trans_le (endAt_le_startAt_succ patience attempt number)).trans_le next
  | waiting waits ended waitsOn uncut => exact waitsOn.trans_le next

theorem Concludes.unique
    (concludes : Concludes patience attempt number finish result)
    (again : Concludes patience attempt number otherFinish otherResult) :
    finish = otherFinish ∧ result = otherResult := by
  cases concludes with
  | delivered taken =>
      cases again with
      | delivered taken => exact ⟨rfl, rfl⟩
      | exhausted last failed => cases taken.symm.trans failed
      | cancelled waits cut =>
          obtain ⟨failure, failed⟩ := waits.fails
          cases taken.symm.trans failed
  | exhausted last failed =>
      cases again with
      | delivered taken => cases taken.symm.trans failed
      | exhausted _ same =>
          cases failed.symm.trans same
          exact ⟨rfl, rfl⟩
      | cancelled waits cut => exact absurd last (Nat.ne_of_lt waits.lt_length)
  | cancelled waits cut =>
      obtain ⟨failure, failed⟩ := waits.fails
      cases again with
      | delivered taken => cases taken.symm.trans failed
      | exhausted last failed => exact absurd last (Nat.ne_of_lt waits.lt_length)
      | cancelled _ same =>
          cases cut.1.symm.trans same.1
          exact ⟨rfl, rfl⟩

/-- What ends in time is not given up. -/
theorem Concludes.not_late
    (concludes : Concludes patience attempt number finish result)
    (inTime : finish ≤ patience.deadline.nanoseconds)
    (waits : Waits patience attempt number)
    (uncut : ∀ instant, patience.cancelAt = some instant ->
      patience.deadline.nanoseconds < instant.nanoseconds) :
    False := by
  obtain ⟨failure, failed⟩ := waits.fails
  cases concludes with
  | delivered taken => cases failed.symm.trans taken
  | exhausted last failed => exact Nat.ne_of_lt waits.lt_length last
  | cancelled waits cut =>
      exact Nat.not_le.mpr (uncut _ cut.1) ((le_max_left _ _).trans inTime)

theorem Ends.unique
    (ends : Ends patience attempt number finish result)
    (again : Ends patience attempt number otherFinish otherResult) :
    finish = otherFinish ∧ result = otherResult := by
  cases ends with
  | inTime concludes inTime =>
      cases again with
      | inTime same _ => exact concludes.unique same
      | attempting _ attempts =>
          exact absurd (concludes.endAt_le.trans inTime) (Nat.not_le.mpr attempts)
      | waiting waits _ _ uncut => exact (concludes.not_late inTime waits uncut).elim
  | attempting started attempts =>
      cases again with
      | inTime concludes inTime =>
          exact absurd (concludes.endAt_le.trans inTime) (Nat.not_le.mpr attempts)
      | attempting _ _ => exact ⟨rfl, rfl⟩
      | waiting _ _ _ _ => exact ⟨rfl, rfl⟩
  | waiting waits ended waitsOn uncut =>
      cases again with
      | inTime concludes inTime => exact (concludes.not_late inTime waits uncut).elim
      | attempting _ _ => exact ⟨rfl, rfl⟩
      | waiting _ _ _ _ => exact ⟨rfl, rfl⟩

theorem StopsAfter.unique
    {delivery another : Delivery}
    (stops : StopsAfter patience attempt number delivery)
    (again : StopsAfter patience attempt other another) :
    delivery = another := by
  -- An end after one attempt leaves no time for another one to start.
  have same : number = other := by
    rcases Nat.lt_trichotomy number other with less | same | more
    · have late := stops.ends.not_reaches_later less again.reaches
      exact absurd again.ends.startAt_le (Nat.not_le.mpr late)
    · exact same
    · have late := again.ends.not_reaches_later more stops.reaches
      exact absurd stops.ends.startAt_le (Nat.not_le.mpr late)
  subst same
  have starts := stops.starts_eq.trans again.starts_eq.symm
  have ⟨finish, result⟩ := stops.ends.unique again.ends
  cases delivery
  cases another
  cases starts
  cases finish
  cases result
  rfl

theorem StopsAfter.eq_make
    {delivery : Delivery}
    (stops : StopsAfter patience attempt number delivery) :
    delivery = make patience attempt :=
  have ⟨_, made⟩ := exists_stopsAfter patience attempt
  stops.unique made

/-- A delivery that gets to an attempt after which it ends makes the attempts up to that one. -/
theorem make_eq
    (reaches : Reaches patience attempt number)
    (ends : Ends patience attempt number finish result) :
    make patience attempt =
      ⟨(List.range (number + 1)).map (startAt patience attempt), finish, result⟩ :=
  (StopsAfter.eq_make ⟨reaches, rfl, ends⟩).symm

end Unique

/-! ## What comes of a delivery -/

section Results

variable {number finish : Nat} {result : Except SendError Unit} {delivery : Delivery}

theorem StopsAfter.length_starts
    (stops : StopsAfter patience attempt number delivery) :
    delivery.starts.length = number + 1 := by
  rw [stops.starts_eq, List.length_map, List.length_range]

theorem length_starts_make_le (patience : Patience) (attempt : Nat -> Attempt AttemptError Unit) :
    (make patience attempt).starts.length ≤ patience.schedule.length + 1 := by
  obtain ⟨number, stops⟩ := exists_stopsAfter patience attempt
  rw [stops.length_starts]
  exact Nat.succ_le_succ stops.reaches.le_length

/-- The attempts start at the times that the attempts before them settle. -/
theorem starts_make (patience : Patience) (attempt : Nat -> Attempt AttemptError Unit) :
    (make patience attempt).starts =
      (List.range (make patience attempt).starts.length).map (startAt patience attempt) := by
  obtain ⟨number, stops⟩ := exists_stopsAfter patience attempt
  rw [stops.length_starts]
  exact stops.starts_eq

/-- An attempt is made exactly if the delivery gets to it by the deadline. -/
theorem lt_length_starts_make_iff :
    number < (make patience attempt).starts.length ↔
      Reaches patience attempt number ∧
        startAt patience attempt number ≤ patience.deadline.nanoseconds := by
  obtain ⟨last, stops⟩ := exists_stopsAfter patience attempt
  rw [stops.length_starts, Nat.lt_succ_iff]
  constructor
  · intro le
    exact ⟨stops.reaches.earlier le, (Retry.startOf_mono _ _ le).trans stops.ends.startAt_le⟩
  · rintro ⟨reaches, started⟩
    exact Nat.le_of_not_lt fun later =>
      Nat.not_le.mpr (stops.ends.not_reaches_later later reaches) started

/-- No attempt starts after the deadline. -/
theorem le_deadline_of_mem_starts_make
    {start : Nat}
    (inside : start ∈ (make patience attempt).starts) :
    start ≤ patience.deadline.nanoseconds := by
  rw [starts_make] at inside
  obtain ⟨number, made, rfl⟩ := List.mem_map.mp inside
  exact (lt_length_starts_make_iff.mp (List.mem_range.mp made)).2

theorem finish_make_le (patience : Patience) (attempt : Nat -> Attempt AttemptError Unit) :
    (make patience attempt).finish ≤ patience.deadline.nanoseconds := by
  rw [make, ofRun]
  split
  next inTime => exact inTime
  next late => exact Nat.le_refl _

theorem Ends.of_ok
    (ends : Ends patience attempt number finish (.ok ())) :
    (attempt number).outcome = .ok () ∧ finish = endAt patience attempt number ∧
      finish ≤ patience.deadline.nanoseconds := by
  cases ends with
  | inTime concludes inTime =>
      cases concludes with
      | delivered taken => exact ⟨taken, rfl, inTime⟩

theorem Ends.of_exhausted
    {attempts : Nat} {failure : AttemptError}
    (ends : Ends patience attempt number finish (.error (.exhausted attempts failure))) :
    number = patience.schedule.length ∧ attempts = number + 1 ∧
      (attempt number).outcome = .error failure ∧ finish = endAt patience attempt number ∧
      finish ≤ patience.deadline.nanoseconds := by
  cases ends with
  | inTime concludes inTime =>
      cases concludes with
      | exhausted last failed => exact ⟨last, rfl, failed, rfl, inTime⟩

theorem Ends.of_cancelled
    (ends : Ends patience attempt number finish (.error .cancelled)) :
    ∃ instant, Waits patience attempt number ∧ IsCut patience attempt number instant ∧
      finish = max instant.nanoseconds (endAt patience attempt number) ∧
      finish ≤ patience.deadline.nanoseconds := by
  cases ends with
  | inTime concludes inTime =>
      cases concludes with
      | @cancelled instant waits cut => exact ⟨instant, waits, cut, rfl, inTime⟩

/-- There is no attempt after one that succeeds. -/
theorem StopsAfter.eq_of_taken
    {taken : Nat}
    (stops : StopsAfter patience attempt number delivery)
    (made : taken < delivery.starts.length)
    (succeeds : (attempt taken).outcome = .ok ()) :
    taken = number := by
  rw [stops.length_starts] at made
  refine (Nat.lt_or_eq_of_le (Nat.le_of_lt_succ made)).resolve_left fun less => ?_
  obtain ⟨failure, failed⟩ := stops.reaches.fails taken less
  cases succeeds.symm.trans failed

theorem length_starts_make_eq_of_taken
    (made : number < (make patience attempt).starts.length)
    (succeeds : (attempt number).outcome = .ok ()) :
    (make patience attempt).starts.length = number + 1 := by
  obtain ⟨last, stops⟩ := exists_stopsAfter patience attempt
  rw [stops.eq_of_taken made succeeds]
  exact stops.length_starts

/-- A delivery succeeds exactly if one of its attempts does, in time. -/
theorem result_make_eq_ok_iff :
    (make patience attempt).result = .ok () ↔
      ∃ number < (make patience attempt).starts.length,
        (attempt number).outcome = .ok () ∧
          endAt patience attempt number ≤ patience.deadline.nanoseconds := by
  obtain ⟨last, stops⟩ := exists_stopsAfter patience attempt
  constructor
  · intro delivered
    have ends := stops.ends
    rw [delivered] at ends
    obtain ⟨taken, finish_eq, inTime⟩ := ends.of_ok
    exact ⟨last, stops.length_starts ▸ Nat.lt_succ_self last, taken, finish_eq ▸ inTime⟩
  · rintro ⟨number, made, taken, inTime⟩
    cases stops.eq_of_taken made taken
    rw [make_eq stops.reaches (.inTime (.delivered taken) inTime)]

/-- A delivery is late exactly if the run of its attempts is not done by the deadline. -/
theorem result_make_eq_late_iff :
    (make patience attempt).result = .error (.late patience.deadline) ↔
      patience.deadline.nanoseconds < (patience.run attempt).finish := by
  have made : make patience attempt = ofRun patience.deadline (patience.run attempt) := rfl
  rw [made, ofRun]
  split
  next inTime =>
    refine iff_of_false ?_ (Nat.not_lt.mpr inTime)
    cases (patience.run attempt).result with
    | ok value => exact fun late => nomatch late
    | error failure => cases failure <;> exact fun late => nomatch late
  next late => exact iff_of_true rfl (Nat.lt_of_not_le late)

/-- A delivery is exhausted exactly if it gets to the attempt behind all delays, and this one fails
as well, in time. -/
theorem result_make_eq_exhausted_iff
    {attempts : Nat} {failure : AttemptError} :
    (make patience attempt).result = .error (.exhausted attempts failure) ↔
      attempts = patience.schedule.length + 1 ∧
        Reaches patience attempt patience.schedule.length ∧
        (attempt patience.schedule.length).outcome = .error failure ∧
        endAt patience attempt patience.schedule.length ≤ patience.deadline.nanoseconds := by
  constructor
  · intro exhausted
    obtain ⟨last, stops⟩ := exists_stopsAfter patience attempt
    have ends := stops.ends
    rw [exhausted] at ends
    obtain ⟨rfl, attempts_eq, failed, finish_eq, inTime⟩ := ends.of_exhausted
    exact ⟨attempts_eq, stops.reaches, failed, finish_eq ▸ inTime⟩
  · rintro ⟨rfl, reaches, failed, inTime⟩
    rw [make_eq reaches (.inTime (.exhausted rfl failed) inTime)]

/-- An exhausted delivery has made all its attempts. -/
theorem length_starts_make_of_exhausted
    {attempts : Nat} {failure : AttemptError}
    (exhausted : (make patience attempt).result = .error (.exhausted attempts failure)) :
    (make patience attempt).starts.length = attempts := by
  obtain ⟨last, stops⟩ := exists_stopsAfter patience attempt
  have ends := stops.ends
  rw [exhausted] at ends
  rw [stops.length_starts, ends.of_exhausted.2.1]

/-- A delivery is cancelled exactly if it gets to a wait that the cancellation comes before or in,
and both are in time. -/
theorem result_make_eq_cancelled_iff :
    (make patience attempt).result = .error .cancelled ↔
      ∃ number instant, Reaches patience attempt number ∧ Waits patience attempt number ∧
        IsCut patience attempt number instant ∧
        max instant.nanoseconds (endAt patience attempt number) ≤
          patience.deadline.nanoseconds := by
  constructor
  · intro cancelled
    obtain ⟨last, stops⟩ := exists_stopsAfter patience attempt
    have ends := stops.ends
    rw [cancelled] at ends
    obtain ⟨instant, waits, cut, finish_eq, inTime⟩ := ends.of_cancelled
    exact ⟨last, instant, stops.reaches, waits, cut, finish_eq ▸ inTime⟩
  · rintro ⟨number, instant, reaches, waits, cut, inTime⟩
    rw [make_eq reaches (.inTime (.cancelled waits cut) inTime)]

/-- There are no other results. -/
theorem Ends.result_cases
    (ends : Ends patience attempt number finish result) :
    result = .ok () ∨ result = .error (.late patience.deadline) ∨
      (∃ attempts failure, result = .error (.exhausted attempts failure)) ∨
      result = .error .cancelled := by
  cases ends with
  | inTime concludes inTime =>
      cases concludes with
      | delivered taken => exact .inl rfl
      | exhausted last failed => exact .inr (.inr (.inl ⟨_, _, rfl⟩))
      | cancelled waits cut => exact .inr (.inr (.inr rfl))
  | attempting started attempts => exact .inr (.inl rfl)
  | waiting waits ended waitsOn uncut => exact .inr (.inl rfl)

theorem result_make_cases (patience : Patience) (attempt : Nat -> Attempt AttemptError Unit) :
    (make patience attempt).result = .ok () ∨
      (make patience attempt).result = .error (.late patience.deadline) ∨
      (∃ attempts failure,
        (make patience attempt).result = .error (.exhausted attempts failure)) ∨
      (make patience attempt).result = .error .cancelled :=
  have ⟨_, stops⟩ := exists_stopsAfter patience attempt
  stops.ends.result_cases

end Results

/-! ## What a delivery depends on -/

section Agreement

variable {other : Nat -> Attempt AttemptError Unit} {number : Nat}

theorem startAt_congr
    (agree : ∀ earlier < number, other earlier = attempt earlier) :
    startAt patience other number = startAt patience attempt number :=
  Retry.startOf_congr patience.delays attempt agree

theorem endAt_congr
    (agree : ∀ earlier ≤ number, other earlier = attempt earlier) :
    endAt patience other number = endAt patience attempt number := by
  have started : startAt patience other number = startAt patience attempt number :=
    startAt_congr fun earlier before => agree earlier (Nat.le_of_lt before)
  unfold startAt at started
  rw [endAt, endAt, Retry.finishOf, Retry.finishOf, started, agree number (Nat.le_refl number)]

theorem Reaches.congr
    (reaches : Reaches patience attempt number)
    (agree : ∀ earlier < number, other earlier = attempt earlier) :
    Reaches patience other number where
  le_length := reaches.le_length
  fails := fun earlier before => by
    rw [Fails, agree earlier before]
    exact reaches.fails earlier before
  uncut := fun earlier before instant isCut => by
    refine reaches.uncut earlier before instant ⟨isCut.1, ?_⟩
    rw [← startAt_congr fun first less => agree first (less.trans_le before)]
    exact isCut.2

/-- What comes after an attempt does not bear on how a delivery ends after it. -/
theorem Ends.congr
    {finish : Nat} {result : Except SendError Unit}
    (ends : Ends patience attempt number finish result)
    (agree : ∀ earlier ≤ number, other earlier = attempt earlier) :
    Ends patience other number finish result := by
  have same := agree number (Nat.le_refl number)
  have started : startAt patience other number = startAt patience attempt number :=
    startAt_congr fun earlier before => agree earlier (Nat.le_of_lt before)
  have ended : endAt patience other number = endAt patience attempt number := endAt_congr agree
  have next : startAt patience other (number + 1) = startAt patience attempt (number + 1) :=
    startAt_congr fun earlier before => agree earlier (Nat.le_of_lt_succ before)
  have waits_congr (waits : Waits patience attempt number) : Waits patience other number :=
    ⟨waits.lt_length, by rw [Fails, same]; exact waits.fails⟩
  cases ends with
  | inTime concludes inTime =>
      refine .inTime ?_ inTime
      cases concludes with
      | delivered taken =>
          rw [← ended]
          exact .delivered (same ▸ taken)
      | exhausted last failed =>
          rw [← ended]
          exact .exhausted last (same ▸ failed)
      | cancelled waits cut =>
          rw [← ended]
          exact .cancelled (waits_congr waits) ⟨cut.1, next ▸ cut.2⟩
  | attempting isStarted attempts => exact .attempting (started ▸ isStarted) (ended ▸ attempts)
  | waiting waits isEnded waitsOn uncut =>
      exact .waiting (waits_congr waits) (ended ▸ isEnded) (next ▸ waitsOn) uncut

/-- A delivery depends only on the attempts that it makes. -/
theorem make_congr
    (agree : ∀ number < (make patience attempt).starts.length, other number = attempt number) :
    make patience other = make patience attempt := by
  obtain ⟨number, stops⟩ := exists_stopsAfter patience attempt
  rw [stops.length_starts] at agree
  have before : ∀ earlier < number, other earlier = attempt earlier :=
    fun earlier less => agree earlier (Nat.lt_succ_of_lt less)
  refine (StopsAfter.eq_make ⟨stops.reaches.congr before, ?_,
    stops.ends.congr fun earlier le => agree earlier (Nat.lt_succ_of_le le)⟩).symm
  rw [stops.starts_eq]
  refine List.map_congr_left fun earlier inside => (startAt_congr fun first less => ?_).symm
  exact before first (less.trans_le (Nat.le_of_lt_succ (List.mem_range.mp inside)))

end Agreement

end Delivery
end Sending
end Telemetry
