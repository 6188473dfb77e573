import Telemetry.Bytes
import Telemetry.Text.Pieces

/-!
# Paths of requests

A path is cut at its slashes before the percent signs of its segments are
resolved, so a slash that is written as `%2F` belongs to a segment.
-/

namespace Telemetry
namespace Http

/-- Resolves percent signs followed by two hexadecimal digits; others stay as they are. -/
def resolvePercent : Bytes -> Bytes
  | [] => []
  | [byte] => [byte]
  | [byte, next] => [byte, next]
  | byte :: high :: low :: rest =>
      let digits :=
        if byte = 0x25 then
          (Bytes.hexValue? (Char.ofNat high.toNat)).bind fun upper =>
            (Bytes.hexValue? (Char.ofNat low.toNat)).map fun lower => 16 * upper + lower
        else none
      match digits with
      | some value => UInt8.ofNat value :: resolvePercent rest
      | none => byte :: resolvePercent (high :: low :: rest)

/-- The text that a segment stands for, when it is valid UTF-8. -/
def segmentText? (segment : String) : Option String :=
  Bytes.text? (resolvePercent (Bytes.ofText segment))

/-- Where a request can go. -/
inductive Route where
  /-- The page with all metrics. -/
  | page
  /-- The question whether the database is there. -/
  | ping
  /-- One metric to apply. -/
  | update
  /-- A list of metrics to apply. -/
  | updates
  /-- One metric to apply, spelled in the path. -/
  | updatePath (type name raw : String)
  /-- One metric to look up. -/
  | value
  /-- One metric to look up, spelled in the path. -/
  | valuePath (type name : String)
deriving DecidableEq

namespace Route

/--
The route of a path.  A variable segment may be empty unless it is the last.
-/
def ofPath? (path : List Char) : Option Route :=
  match (Text.pieces '/' path).map String.ofList with
  | ["", ""] => some .page
  | ["", "ping"] => some .ping
  | ["", "update"] => some .update
  | ["", "update", ""] => some .update
  | ["", "updates", ""] => some .updates
  | ["", "value"] => some .value
  | ["", "value", ""] => some .value
  | ["", "update", type, name, raw] =>
      if raw = "" then none else some (.updatePath type name raw)
  | ["", "value", type, name] => if name = "" then none else some (.valuePath type name)
  | _ => none

/-- Whether a route is read and not written to. -/
def isRead : Route -> Bool
  | .page => true
  | .ping => true
  | .valuePath _ _ => true
  | _ => false

/-- Whether a route takes a method. -/
def takes (route : Route) (method : String) : Bool :=
  if route.isRead then method == "GET" || method == "HEAD" else method == "POST"

/-- The methods that a route takes, as a response names them. -/
def methods (route : Route) : String :=
  if route.isRead then "GET,HEAD" else "POST"

end Route
end Http
end Telemetry
