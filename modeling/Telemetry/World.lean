import Telemetry.Files.Tree
import Telemetry.Http.Message

/-!
# What lies outside of the program

The files that are read and written, and the addresses that requests can be
posted to.
-/

namespace Telemetry

/-- An address that answers requests. -/
structure Endpoint where
  /-- The status of the answer to each request, counted from zero. -/
  status : Nat -> Nat
  /-- The requests that were received, in order. -/
  received : List Http.Request := []

/-- The surroundings of a program. -/
structure World where
  /-- The files. -/
  files : Files.Tree := .empty
  /-- The addresses that can be reached. -/
  endpoints : List (String × Endpoint) := []

namespace World

/-- The requests that an address has received; none when it cannot be reached. -/
def received (world : World) (url : String) : List Http.Request :=
  match world.endpoints.lookup url with
  | some endpoint => endpoint.received
  | none => []

/-- Posts a request to an address and tells the status of the answer, if there is one. -/
def post (world : World) (url : String) (request : Http.Request) : World × Option Nat :=
  match world.endpoints.lookup url with
  | none => (world, none)
  | some endpoint =>
      let answered := { endpoint with received := endpoint.received ++ [request] }
      let others := world.endpoints.filter fun entry => entry.1 != url
      ({ world with endpoints := (url, answered) :: others },
        some (endpoint.status endpoint.received.length))

end World
end Telemetry
