import Mathlib.Data.List.Basic
import Mathlib.Order.Monotone.Basic
import Telemetry.Repository

/-!
# When attempts are made and what comes of them

The attempts of a run follow each other at fixed times up to the last one: the
first that gives a value or a failure not worth another attempt, or else the one
behind all delays.  Only a cancellation in a delay before it ends a run earlier.
-/

namespace Telemetry
namespace Retry

/-- Whether no further attempt is worth it: there is a value, or a failure that stays. -/
def settles (isRetriable : ε -> Bool) : Except ε α -> Bool
  | .ok _ => true
  | .error failure => !isRetriable failure

/-- The last attempt of a run that may make `limit` of them again: the first that settles it, or
else the attempt behind all delays. -/
def lastAttempt (isRetriable : ε -> Bool) (limit : Nat) (attempt : Nat -> Attempt ε α) : Nat :=
  ((List.range limit).find? fun number => settles isRetriable (attempt number).outcome).getD limit

/-- When an attempt starts: the first one at once, and every other one when the one before it has
ended and the delay between them has passed. -/
def startOf (schedule : List Nat) (attempt : Nat -> Attempt ε α) : Nat -> Nat
  | 0 => 0
  | number + 1 =>
      startOf schedule attempt number + (attempt number).duration + schedule.getD number 0

/-- When an attempt ends. -/
def finishOf (schedule : List Nat) (attempt : Nat -> Attempt ε α) (number : Nat) : Nat :=
  startOf schedule attempt number + (attempt number).duration

/-- What comes of a run that no cancellation ends: the value or the failure of its last attempt. -/
def conclusion (isRetriable : ε -> Bool) (limit : Nat) : Except ε α -> Except (RetryError ε) α
  | .ok value => .ok value
  | .error failure =>
      if isRetriable failure then .error (.exhausted (limit + 1) failure)
      else .error (.permanent failure)

/-- A run makes its attempts on a schedule.  If no delay before the last attempt ends after the
cancellation, it makes all attempts up to the last one and ends with that one.  Otherwise the
first such delay is cut short, when it begins or when the cancellation comes, whichever is later,
and no attempt follows. -/
structure Follows (isRetriable : ε -> Bool) (schedule : List Nat) (cancelAt : Option Nat)
    (attempt : Nat -> Attempt ε α) (run : RetryRun ε α) : Prop where
  concluded :
    let last := lastAttempt isRetriable schedule.length attempt
    (∀ instant, cancelAt = some instant ->
      ∀ number < last, startOf schedule attempt (number + 1) ≤ instant) ->
    run.starts = (List.range (last + 1)).map (startOf schedule attempt) ∧
      run.finish = finishOf schedule attempt last ∧
      run.result = conclusion isRetriable schedule.length (attempt last).outcome
  cancelled : ∀ instant, cancelAt = some instant ->
    ∀ number < lastAttempt isRetriable schedule.length attempt,
      instant < startOf schedule attempt (number + 1) ->
      (∀ earlier < number, startOf schedule attempt (earlier + 1) ≤ instant) ->
      run.starts = (List.range (number + 1)).map (startOf schedule attempt) ∧
        run.finish = max instant (finishOf schedule attempt number) ∧
        run.result = .error .cancelled

/-! ## Times -/

section Times

variable (schedule : List Nat) (attempt : Nat -> Attempt ε α)

/-- Later attempts do not start earlier. -/
theorem startOf_mono : Monotone (startOf schedule attempt) :=
  monotone_nat_of_le_succ fun number => by
    rw [startOf]
    omega

/-- When an attempt starts is settled by those before it. -/
theorem startOf_congr
    {other : Nat -> Attempt ε α} {number : Nat}
    (agree : ∀ earlier < number, other earlier = attempt earlier) :
    startOf schedule other number = startOf schedule attempt number := by
  induction number with
  | zero => rfl
  | succ number inductionHypothesis =>
      rw [startOf, startOf, agree number (Nat.lt_succ_self number),
        inductionHypothesis fun earlier before => agree earlier (Nat.lt_succ_of_lt before)]

end Times

/-! ## The last attempt -/

section LastAttempt

variable {isRetriable : ε -> Bool} {limit : Nat} {attempt : Nat -> Attempt ε α}

theorem lastAttempt_le (isRetriable : ε -> Bool) (limit : Nat) (attempt : Nat -> Attempt ε α) :
    lastAttempt isRetriable limit attempt ≤ limit := by
  unfold lastAttempt
  cases found : (List.range limit).find? fun number =>
      settles isRetriable (attempt number).outcome with
  | none => exact Nat.le_refl limit
  | some number => exact Nat.le_of_lt (List.mem_range.mp (List.mem_of_find?_eq_some found))

/-- The last attempt that the schedule does not impose settles the run. -/
theorem settles_lastAttempt
    (early : lastAttempt isRetriable limit attempt < limit) :
    settles isRetriable (attempt (lastAttempt isRetriable limit attempt)).outcome = true := by
  unfold lastAttempt at early ⊢
  cases found : (List.range limit).find? fun number =>
      settles isRetriable (attempt number).outcome with
  | none =>
      rw [found] at early
      exact absurd early (Nat.lt_irrefl limit)
  | some number =>
      have settled := List.find?_some found
      exact settled

/-- No attempt before the last one settles the run. -/
theorem not_settles_of_lt_lastAttempt
    {number : Nat}
    (before : number < lastAttempt isRetriable limit attempt) :
    settles isRetriable (attempt number).outcome = false := by
  have possible := Nat.lt_of_lt_of_le before (lastAttempt_le isRetriable limit attempt)
  unfold lastAttempt at before
  cases found : (List.range limit).find? fun number =>
      settles isRetriable (attempt number).outcome with
  | none =>
      have unsettled := List.find?_eq_none.mp found number (List.mem_range.mpr possible)
      simpa using unsettled
  | some first =>
      rw [found] at before
      have unsettled := (List.find?_range_eq_some.mp found).2.2 number before
      exact Bool.not_inj unsettled

end LastAttempt

/-! ## Single attempts -/

section Steps

variable {isRetriable : ε -> Bool} {cancelAt : Option Nat} {attempt : Nat -> Attempt ε α}
  {number now delay : Nat} {delays : List Nat}

/-- A failure that is worth another attempt. -/
theorem exists_failure
    (unsettled : settles isRetriable (attempt number).outcome = false) :
    ∃ failure, (attempt number).outcome = .error failure ∧ isRetriable failure = true := by
  cases outcome : (attempt number).outcome with
  | ok value =>
      rw [outcome] at unsettled
      cases unsettled
  | error failure =>
      rw [outcome] at unsettled
      exact ⟨failure, rfl, by simpa [settles] using unsettled⟩

/-- An attempt that settles the run ends it, whatever delays are left. -/
theorem runFrom_of_settles
    (settled : settles isRetriable (attempt number).outcome = true)
    (limit : Nat) :
    runFrom isRetriable cancelAt attempt number now delays =
      ⟨[now], now + (attempt number).duration,
        conclusion isRetriable limit (attempt number).outcome⟩ := by
  cases outcome : (attempt number).outcome with
  | ok value => cases delays <;> simp [runFrom, outcome, conclusion]
  | error failure =>
      have stays : isRetriable failure = false := by simpa [outcome, settles] using settled
      cases delays <;> simp [runFrom, outcome, conclusion, stays]

/-- The attempt behind all delays ends the run. -/
theorem runFrom_nil :
    runFrom isRetriable cancelAt attempt number now [] =
      ⟨[now], now + (attempt number).duration,
        conclusion isRetriable number (attempt number).outcome⟩ := by
  cases outcome : (attempt number).outcome with
  | ok value => simp [runFrom, outcome, conclusion]
  | error failure =>
      cases worth : isRetriable failure <;> simp [runFrom, outcome, conclusion, worth]

/-- An attempt that does not settle the run is followed by its delay. -/
theorem runFrom_cons
    (unsettled : settles isRetriable (attempt number).outcome = false) :
    runFrom isRetriable cancelAt attempt number now (delay :: delays) =
      match interruption? cancelAt (now + (attempt number).duration) delay with
      | some instant => ⟨[now], instant, .error .cancelled⟩
      | none =>
          let later := runFrom isRetriable cancelAt attempt (number + 1)
            (now + (attempt number).duration + delay) delays
          { later with starts := now :: later.starts } := by
  obtain ⟨failure, outcome, worth⟩ := exists_failure unsettled
  rw [runFrom, outcome]
  dsimp only
  refine (if_pos worth).trans ?_
  cases interruption? cancelAt (now + (attempt number).duration) delay <;> rfl

end Steps

/-! ## Runs -/

section Runs

variable {isRetriable : ε -> Bool} {schedule : List Nat} {cancelAt : Option Nat}
  {attempt : Nat -> Attempt ε α}

/-- A delay that has ended by the time of the cancellation is not cut short. -/
theorem interruption?_eq_none
    {now delay : Nat}
    (ended : ∀ instant, cancelAt = some instant -> now + delay ≤ instant) :
    interruption? cancelAt now delay = none := by
  unfold interruption?
  cases cancelAt with
  | none => rfl
  | some instant => exact if_neg (Nat.not_lt.mpr (ended instant rfl))

/-- A run gets to an attempt if no attempt before it settles the run and no delay before it is cut
short. -/
theorem run_reaches
    {number : Nat}
    (within : number ≤ schedule.length)
    (unsettled : ∀ earlier < number, settles isRetriable (attempt earlier).outcome = false)
    (uncut : ∀ instant, cancelAt = some instant ->
      ∀ earlier < number, startOf schedule attempt (earlier + 1) ≤ instant) :
    run isRetriable schedule cancelAt attempt =
      let later := runFrom isRetriable cancelAt attempt number
        (startOf schedule attempt number) (schedule.drop number)
      { later with
        starts := (List.range number).map (startOf schedule attempt) ++ later.starts } := by
  induction number with
  | zero => rfl
  | succ number inductionHypothesis =>
      have reached := inductionHypothesis (Nat.le_of_succ_le within)
        (fun earlier before => unsettled earlier (Nat.lt_succ_of_lt before))
        (fun instant cancels earlier before =>
          uncut instant cancels earlier (Nat.lt_succ_of_lt before))
      have next : startOf schedule attempt (number + 1) =
          startOf schedule attempt number + (attempt number).duration + schedule[number] := by
        rw [startOf, List.getD_eq_getElem?_getD, List.getElem?_eq_getElem within, Option.getD_some]
      have whole : interruption? cancelAt
          (startOf schedule attempt number + (attempt number).duration) schedule[number] =
            none :=
        interruption?_eq_none fun instant cancels =>
          next ▸ uncut instant cancels number (Nat.lt_succ_self number)
      rw [reached, List.drop_eq_getElem_cons within,
        runFrom_cons (unsettled number (Nat.lt_succ_self number)), whole, ← next,
        List.range_succ, List.map_append]
      simp

/-- A run ends with its last attempt unless a delay before it is cut short. -/
theorem run_concluded
    (uncut : ∀ instant, cancelAt = some instant ->
      ∀ number < lastAttempt isRetriable schedule.length attempt,
        startOf schedule attempt (number + 1) ≤ instant) :
    let last := lastAttempt isRetriable schedule.length attempt
    run isRetriable schedule cancelAt attempt =
      ⟨(List.range (last + 1)).map (startOf schedule attempt), finishOf schedule attempt last,
        conclusion isRetriable schedule.length (attempt last).outcome⟩ := by
  intro last
  have within : last ≤ schedule.length := lastAttempt_le isRetriable schedule.length attempt
  have ending : runFrom isRetriable cancelAt attempt last (startOf schedule attempt last)
      (schedule.drop last) =
        ⟨[startOf schedule attempt last], finishOf schedule attempt last,
          conclusion isRetriable schedule.length (attempt last).outcome⟩ := by
    rcases Nat.lt_or_eq_of_le within with early | full
    · exact runFrom_of_settles (settles_lastAttempt early) _
    · rw [full, List.drop_length]
      exact runFrom_nil
  rw [run_reaches within (fun _ before => not_settles_of_lt_lastAttempt before) uncut, ending,
    List.range_succ, List.map_append, List.map_singleton]

/-- The first delay that ends after the cancellation ends the run. -/
theorem run_cancelled
    {instant number : Nat}
    (cancels : cancelAt = some instant)
    (before : number < lastAttempt isRetriable schedule.length attempt)
    (cut : instant < startOf schedule attempt (number + 1))
    (uncut : ∀ earlier < number, startOf schedule attempt (earlier + 1) ≤ instant) :
    run isRetriable schedule cancelAt attempt =
      ⟨(List.range (number + 1)).map (startOf schedule attempt),
        max instant (finishOf schedule attempt number), .error .cancelled⟩ := by
  have within : number < schedule.length :=
    Nat.lt_of_lt_of_le before (lastAttempt_le isRetriable schedule.length attempt)
  have next : startOf schedule attempt (number + 1) =
      finishOf schedule attempt number + schedule[number] := by
    rw [startOf, List.getD_eq_getElem?_getD, List.getElem?_eq_getElem within, Option.getD_some,
      finishOf]
  have interrupted : interruption? cancelAt
      (startOf schedule attempt number + (attempt number).duration) schedule[number] =
        some (max instant (finishOf schedule attempt number)) := by
    rw [cancels, interruption?]
    exact if_pos (next ▸ cut)
  rw [run_reaches (Nat.le_of_lt within)
      (fun _ earlier => not_settles_of_lt_lastAttempt (Nat.lt_trans earlier before))
      (fun _ same => Option.some.inj (cancels.symm.trans same) ▸ uncut),
    List.drop_eq_getElem_cons within, runFrom_cons (not_settles_of_lt_lastAttempt before),
    interrupted, List.range_succ, List.map_append, List.map_singleton]

end Runs

/-- Every run follows its schedule. -/
theorem run_follows (isRetriable : ε -> Bool) (schedule : List Nat) (cancelAt : Option Nat)
    (attempt : Nat -> Attempt ε α) :
    Follows isRetriable schedule cancelAt attempt
      (run isRetriable schedule cancelAt attempt) where
  concluded := by
    intro last uncut
    rw [run_concluded uncut]
    exact ⟨rfl, rfl, rfl⟩
  cancelled := by
    intro instant cancels number before cut uncut
    rw [run_cancelled cancels before cut uncut]
    exact ⟨rfl, rfl, rfl⟩

end Retry

/-- A failure of the connection to a database: it broke off, or the database refused the operation
with a code of the class for that. -/
inductive DatabaseFault.LosesConnection : DatabaseFault -> Prop
  | brokenOff (reason : String) : LosesConnection (.connection reason)
  | refused (detail : String) : LosesConnection (.refused (some ("08" ++ detail)))

theorem DatabaseFault.isConnection_iff (fault : DatabaseFault) :
    fault.isConnection = true ↔ fault.LosesConnection := by
  constructor
  · intro connection
    cases fault with
    | connection reason => exact .brokenOff reason
    | noRow => cases connection
    | noConnection => cases connection
    | closed => cases connection
    | refused code =>
        cases code with
        | none => cases connection
        | some code =>
            have front : code.toList.take 2 = ['0', '8'] := by
              simpa [isConnection] using connection
            have spelled : code = "08" ++ String.ofList (code.toList.drop 2) := by
              rw [← String.toList_inj, String.toList_append, String.toList_ofList,
                String.toList_ofList]
              exact (List.take_append_drop 2 code.toList).symm.trans
                (congrArg (· ++ code.toList.drop 2) front)
            rw [spelled]
            exact .refused _
  · rintro (⟨reason⟩ | ⟨detail⟩)
    · rfl
    · simp [isConnection]

namespace Repository

/-- A repository answers as the attempts on its database come out.  If no delay before the last
attempt ends after the cancellation, the answer is the value of that attempt or tells of its
failure: after all attempts if the failure is one of the connection, and at once if it is not. -/
structure Answers (schedule : List Nat) (cancelAt : Option Nat)
    (query : Nat -> Attempt DatabaseFault α) (answer : Except RepositoryError α) : Prop where
  concluded :
    let last := Retry.lastAttempt DatabaseFault.isConnection schedule.length query
    (∀ instant, cancelAt = some instant ->
      ∀ number < last, Retry.startOf schedule query (number + 1) ≤ instant) ->
    (∀ value, (query last).outcome = .ok value -> answer = .ok value) ∧
      ∀ fault, (query last).outcome = .error fault ->
        (fault.LosesConnection -> answer = .error (.exhausted (schedule.length + 1) fault)) ∧
          (¬fault.LosesConnection -> answer = .error (.failed fault))
  cancelled : ∀ instant, cancelAt = some instant ->
    ∀ number < Retry.lastAttempt DatabaseFault.isConnection schedule.length query,
      instant < Retry.startOf schedule query (number + 1) ->
      (∀ earlier < number, Retry.startOf schedule query (earlier + 1) ≤ instant) ->
      answer = .error .cancelled

/-- Whatever follows a schedule is answered like that. -/
theorem answers_of_follows
    {schedule : List Nat} {cancelAt : Option Nat} {query : Nat -> Attempt DatabaseFault α}
    {run : RetryRun DatabaseFault α}
    (follows : Retry.Follows DatabaseFault.isConnection schedule cancelAt query run) :
    Answers schedule cancelAt query (answer run) := by
  constructor
  case concluded =>
    intro last uncut
    obtain ⟨-, -, result⟩ := follows.concluded uncut
    rw [answer, result]
    refine ⟨fun value succeeds => ?_, fun fault fails => ⟨fun lost => ?_, fun kept => ?_⟩⟩
    · rw [succeeds]
      rfl
    · rw [fails, Retry.conclusion, if_pos (fault.isConnection_iff.mpr lost)]
      rfl
    · rw [fails, Retry.conclusion, if_neg (mt fault.isConnection_iff.mp kept)]
      rfl
  case cancelled =>
    intro instant cancels number before cut uncut
    obtain ⟨-, -, result⟩ := follows.cancelled instant cancels number before cut uncut
    rw [answer, result]
    rfl

end Repository

/--
A run of attempts follows its schedule, whatever the attempts take and come to and whenever it is
cancelled.  So does every operation on a database, for which just the failures of the connection
are worth another attempt, and the repository answers accordingly.
-/
theorem attempts_follow_schedule
    (isRetriable : ε -> Bool) (schedule : List Nat) (cancelAt : Option Nat)
    (attempt : Nat -> Attempt ε α) (query : Nat -> Attempt DatabaseFault β) :
    Retry.Follows isRetriable schedule cancelAt attempt
        (Retry.run isRetriable schedule cancelAt attempt) ∧
      Retry.Follows DatabaseFault.isConnection schedule cancelAt query
        (Repository.retry schedule cancelAt query) ∧
      Repository.Answers schedule cancelAt query
        (Repository.answer (Repository.retry schedule cancelAt query)) ∧
      ∀ fault : DatabaseFault, fault.isConnection = true ↔ fault.LosesConnection := by
  have queries : Retry.Follows DatabaseFault.isConnection schedule cancelAt query
      (Repository.retry schedule cancelAt query) :=
    Retry.run_follows ..
  exact ⟨Retry.run_follows .., queries, Repository.answers_of_follows queries,
    DatabaseFault.isConnection_iff⟩

end Telemetry
