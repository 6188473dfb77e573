import Telemetry.Retry
import Telemetry.Rpc.Server
import Telemetry.Sealing.Payload
import Telemetry.TimeSpan

/-!
# Deliveries

A batch is delivered in attempts on a schedule, all of them within a deadline.
An attempt that succeeds at the very deadline is in time.
-/

namespace Telemetry
namespace Sending

/-- Why an attempt failed. -/
inductive AttemptError where
  /-- There was no answer. -/
  | unreachable
  /-- The answer had a status other than that of success. -/
  | refused (status : Nat)
  /-- The call failed. -/
  | call (error : Rpc.CallError)
deriving DecidableEq

/-- The wording of a status other than that of success. -/
def AttemptError.refusal (status : Nat) : String :=
  "unexpected status: " ++ toString status

/-- Why a batch was not delivered. -/
inductive SendError where
  /-- The batch could not be sealed. -/
  | unsealed (error : Sealing.SealError)
  /-- An attempt failed for good. -/
  | failed (error : AttemptError)
  /-- The last attempt failed. -/
  | exhausted (attempts : Nat) (error : AttemptError)
  /-- The delivery was cancelled between two attempts. -/
  | cancelled
  /-- The delivery was not done within its deadline. -/
  | late (deadline : TimeSpan)
  /-- The sender was closed before. -/
  | closed
deriving DecidableEq

namespace SendError

/-- The wording of a cancelled delivery. -/
def cancellation : String := "send cancelled"

/-- The wording of a refused batch. -/
def closure : String := "sender is closed"

/-- The wording of a delivery that was not done within its deadline. -/
def lateness (deadline : TimeSpan) : String :=
  "send did not complete within " ++ deadline.display

/-- The failure of a run of attempts. -/
def ofRetry : RetryError AttemptError -> SendError
  | .permanent error => .failed error
  | .exhausted attempts error => .exhausted attempts error
  | .cancelled => .cancelled

end SendError

/-- How a sender goes about a delivery. -/
structure Patience where
  /-- The delays between attempts. -/
  schedule : List TimeSpan := Retry.standardSeconds.map TimeSpan.ofSeconds
  /-- The time for all attempts together. -/
  deadline : TimeSpan := .ofSeconds 15
  /-- When deliveries are cancelled, counted from their start. -/
  cancelAt : Option TimeSpan := none

/-- What became of a batch; times are in nanoseconds from the start. -/
structure Delivery where
  /-- When each attempt started. -/
  starts : List Nat
  /-- When the delivery ended. -/
  finish : Nat
  /-- Whether the batch was delivered. -/
  result : Except SendError Unit

namespace Delivery

/-- A delivery that ended before its first attempt. -/
def failure (error : SendError) : Delivery where
  starts := []
  finish := 0
  result := .error error

/-- A run of attempts that is given up at the deadline. -/
def ofRun (deadline : TimeSpan) (run : RetryRun AttemptError Unit) : Delivery :=
  if run.finish ≤ deadline.nanoseconds then
    { starts := run.starts
      finish := run.finish
      result := run.result.mapError SendError.ofRetry }
  else
    { starts := run.starts.filter (· ≤ deadline.nanoseconds)
      finish := deadline.nanoseconds
      result := .error (.late deadline) }

/-- Makes attempts until one succeeds; every failure is worth another attempt. -/
def make (patience : Patience) (attempt : Nat -> Attempt AttemptError Unit) : Delivery :=
  ofRun patience.deadline
    (Retry.run (fun _ => true) (patience.schedule.map TimeSpan.nanoseconds)
      (patience.cancelAt.map TimeSpan.nanoseconds) attempt)

end Delivery
end Sending
end Telemetry
