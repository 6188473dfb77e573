/-!
# Retrying on a schedule

An operation is tried, and after each failure that is worth it tried again
once the next delay of a schedule has passed.  A schedule of `n` delays allows
`n + 1` attempts.  A cancellation is noticed only in a delay, so an attempt that
has begun always ends by itself.  Times are naturals of any one unit.
-/

namespace Telemetry

/-- What an attempt does: how long it takes, and what comes of it. -/
structure Attempt (ε α : Type) where
  /-- The time from its start to its end. -/
  duration : Nat
  /-- Its failure or its value. -/
  outcome : Except ε α

/-- Why no attempt succeeded. -/
inductive RetryError (ε : Type) where
  /-- A failure that is not worth another attempt. -/
  | permanent (failure : ε)
  /-- The failure of the last attempt that the schedule allows. -/
  | exhausted (attempts : Nat) (failure : ε)
  /-- A cancellation in a delay. -/
  | cancelled

namespace RetryError

/-- The last failure, unless the delay after it was cancelled. -/
def failure? : RetryError ε -> Option ε
  | .permanent failure => some failure
  | .exhausted _ failure => some failure
  | .cancelled => none

/-- The wording of the failure of a run. -/
def message (describe : ε -> String) : RetryError ε -> String
  | .permanent failure => describe failure
  | .exhausted attempts failure =>
      "operation failed after " ++ toString attempts ++ " attempts: " ++ describe failure
  | .cancelled => "operation cancelled"

end RetryError

/-- What a run of attempts did. -/
structure RetryRun (ε α : Type) where
  /-- When each attempt started. -/
  starts : List Nat
  /-- When the run ended. -/
  finish : Nat
  /-- What came of it. -/
  result : Except (RetryError ε) α

namespace Retry

/-- The usual delays in seconds. -/
def standardSeconds : List Nat := [1, 3, 5]

/-- When a delay that starts now is cut short, if it is. -/
def interruption? (cancelAt : Option Nat) (now delay : Nat) : Option Nat :=
  match cancelAt with
  | none => none
  | some instant => if instant < now + delay then some (max instant now) else none

/--
Makes attempts from number `number` on, the first of them now, with the delays
that are left.
-/
def runFrom (isRetriable : ε -> Bool) (cancelAt : Option Nat) (attempt : Nat -> Attempt ε α)
    (number now : Nat) : List Nat -> RetryRun ε α
  | [] =>
      let finish := now + (attempt number).duration
      match (attempt number).outcome with
      | .ok value => ⟨[now], finish, .ok value⟩
      | .error failure =>
          if isRetriable failure then ⟨[now], finish, .error (.exhausted (number + 1) failure)⟩
          else ⟨[now], finish, .error (.permanent failure)⟩
  | delay :: delays =>
      let finish := now + (attempt number).duration
      match (attempt number).outcome with
      | .ok value => ⟨[now], finish, .ok value⟩
      | .error failure =>
          if isRetriable failure then
            match interruption? cancelAt finish delay with
            | some instant => ⟨[now], instant, .error .cancelled⟩
            | none =>
                let later :=
                  runFrom isRetriable cancelAt attempt (number + 1) (finish + delay) delays
                { later with starts := now :: later.starts }
          else ⟨[now], finish, .error (.permanent failure)⟩

/-- Makes attempts from time zero on; attempts are numbered from zero. -/
def run (isRetriable : ε -> Bool) (schedule : List Nat) (cancelAt : Option Nat)
    (attempt : Nat -> Attempt ε α) : RetryRun ε α :=
  runFrom isRetriable cancelAt attempt 0 0 schedule

end Retry
end Telemetry
