import Telemetry.Network.Address
import Telemetry.Text.Blank

/-!
# The address a request is attributed to
-/

namespace Telemetry
namespace Network

/-- The text before the first comma. -/
def firstHop (chain : String) : String :=
  String.ofList (chain.toList.takeWhile (· ≠ ','))

/-- A text without the blanks around it, unless nothing is left. -/
def trimmed? (text : String) : Option String :=
  let short := Text.trim text
  if short = "" then none else some short

/--
The address a request is attributed to: the first hop of the chain of
forwarding, then the address the sender gives itself, then the peer, and the
empty text when there is none of them.
-/
def callerAddress (forwardedFor realAddress : Option String) (peer : Option Address) : String :=
  match forwardedFor.bind fun chain => trimmed? (firstHop chain) with
  | some hop => hop
  | none =>
      match realAddress.bind trimmed? with
      | some address => address
      | none =>
          match peer with
          | some address => address.display
          | none => ""

end Network
end Telemetry
