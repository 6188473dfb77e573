import Telemetry.Metric
import Telemetry.Retry

/-!
# The database that keeps a copy of a store

A repository takes over the whole store at once.  An operation on it is tried
again only when the connection failed, not when the database refused it.
-/

namespace Telemetry

/-- A failure of one database operation. -/
inductive DatabaseFault where
  /-- The connection failed. -/
  | connection (reason : String)
  /-- A query gave no row where it had to give one. -/
  | noRow
  /-- No connection became free in time. -/
  | noConnection
  /-- The connections are closed for good. -/
  | closed
  /-- The database refused the operation, mostly with a code of its own. -/
  | refused (code : Option String)
deriving DecidableEq

namespace DatabaseFault

/-- The wording of a failure. -/
def message : DatabaseFault -> String
  | .connection reason => "error communicating with database: " ++ reason
  | .noRow => "no rows returned by a query that expected to return at least one row"
  | .noConnection => "pool timed out while waiting for an open connection"
  | .closed => "attempted to acquire a connection on a closed pool"
  | .refused code => "error returned from database: sqlstate " ++ code.getD "none"

/-- Whether a failure is one of the connection: the codes for that start with `08`. -/
def isConnection : DatabaseFault -> Bool
  | .connection _ => true
  | .refused (some code) => code.toList.take 2 == ['0', '8']
  | _ => false

end DatabaseFault

/-- Why a repository did not do what it was asked for. -/
inductive RepositoryError where
  /-- A failure that was not worth another attempt. -/
  | failed (fault : DatabaseFault)
  /-- All attempts failed, the last one like this. -/
  | exhausted (attempts : Nat) (fault : DatabaseFault)
  /-- The wait for another attempt was cancelled. -/
  | cancelled
deriving DecidableEq

namespace RepositoryError

/-- The wording of a failure. -/
def message : RepositoryError -> String
  | .failed fault => "database error: " ++ fault.message
  | .exhausted attempts fault =>
      "database operation failed after " ++ toString attempts ++ " attempts: " ++ fault.message
  | .cancelled => "database operation cancelled"

/-- The failure of a repository after a run of attempts. -/
def ofRetry : RetryError DatabaseFault -> RepositoryError
  | .permanent fault => .failed fault
  | .exhausted attempts fault => .exhausted attempts fault
  | .cancelled => .cancelled

end RepositoryError

/-- How a repository answers: every call by its number, counted from zero. -/
structure Repository where
  /-- The failure of a call that takes over the store, or none. -/
  sync : Nat -> Option RepositoryError
  /-- The failure of a call that asks whether the database is there, or none. -/
  ping : Nat -> Option RepositoryError

namespace Repository

/-- Tries a database operation on a schedule. -/
def retry (schedule : List Nat) (cancelAt : Option Nat)
    (attempt : Nat -> Attempt DatabaseFault α) : RetryRun DatabaseFault α :=
  Retry.run DatabaseFault.isConnection schedule cancelAt attempt

/-- What a repository answers after a run of attempts. -/
def answer (run : RetryRun DatabaseFault α) : Except RepositoryError α :=
  run.result.mapError RepositoryError.ofRetry

end Repository
end Telemetry
