import Telemetry.Http.Message
import Telemetry.Network.Subnet
import Telemetry.Rpc.Entry
import Telemetry.Service

/-!
# The server of calls

A call is let through to the service when it names an address of the trusted
subnet as its own, or when there is no subnet.
-/

namespace Telemetry
namespace Rpc

/-- A call with entries. -/
structure Call where
  /-- The values of the address the sender gives itself. -/
  addresses : List Bytes
  /-- The entries. -/
  entries : List Entry

/-- Why a call failed. -/
inductive CallError where
  /-- The sender is not trusted. -/
  | denied (message : String)
  /-- An entry is no update. -/
  | invalid (message : String)
  /-- The server failed. -/
  | internal (message : String)
  /-- The server could not be reached. -/
  | unavailable (message : String)
deriving DecidableEq

namespace CallError

/-- The name of the kind of a failure. -/
def code : CallError -> String
  | .denied _ => "PermissionDenied"
  | .invalid _ => "InvalidArgument"
  | .internal _ => "Internal"
  | .unavailable _ => "Unavailable"

/-- The wording of a failure. -/
def message : CallError -> String
  | .denied message => message
  | .invalid message => message
  | .internal message => message
  | .unavailable message => message

end CallError

/-- The address a call gives itself: its first value, when that is text. -/
def Call.address? (call : Call) : Option String :=
  match call.addresses with
  | [] => none
  | first :: _ => (Http.valueText? first).map Text.trim

/-- Checks that a call comes from a subnet. -/
def authorize (subnet : Option Network.Subnet) (call : Call) : Except CallError Unit :=
  match subnet with
  | none => .ok ()
  | some subnet =>
      match call.address? with
      | none => .error (.denied "missing x-real-ip")
      | some text =>
          match Network.Address.read? text with
          | none => .error (.denied "ip not allowed")
          | some address =>
              if subnet.contains address then .ok () else .error (.denied "ip not allowed")

/-- How a call is told that its update was not done. -/
def ofUpdateError : UpdateError -> CallError
  | .invalid error => .invalid error.message
  | .unsaved error => .internal (UpdateError.unsaved error).message

/-- A server of calls. -/
structure Server where
  /-- What is done with updates. -/
  service : Service
  /-- The addresses that calls are taken from, or all. -/
  subnet : Option Network.Subnet := none

/-- Handles a call. -/
def Server.handle (server : Server) (now : Int64) (state : Service.State) (call : Call) :
    Service.State × Except CallError Unit :=
  match authorize server.subnet call with
  | .error error => (state, .error error)
  | .ok () =>
      let metrics := call.entries.map Entry.toMetric
      match server.service.update state now metrics (call.address?.getD "") with
      | (changed, .ok ()) => (changed, .ok ())
      | (changed, .error error) => (changed, .error (ofUpdateError error))

end Rpc
end Telemetry
