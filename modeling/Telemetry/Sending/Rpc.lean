import Telemetry.Rpc.Endpoint
import Telemetry.Sending.Delivery

/-!
# Calling with batches

A batch goes as the entries of one call.  A sender that was closed takes no
further batch.
-/

namespace Telemetry
namespace Sending

/-- What comes of a call. -/
structure Reply where
  /-- The time until the reply. -/
  delay : TimeSpan
  /-- Whether the call was done. -/
  result : Except Rpc.CallError Unit

/-- How a server replies to the calls of a delivery, counted from zero. -/
abbrev CallLink := Nat -> Rpc.Call -> Reply

/-- A sender of calls. -/
structure RpcSender where
  /-- The address of the server. -/
  uri : String
  /-- The address that the sender gives as its own. -/
  realIp : String
  /-- How the sender goes about a delivery. -/
  patience : Patience := {}
  /-- Whether the sender was closed. -/
  isClosed : Bool := false

namespace RpcSender

/-- The call with a batch; an own address that is no text of a header is left out. -/
def call (sender : RpcSender) (batch : List Metric) : Rpc.Call where
  addresses :=
    let bytes := Bytes.ofText sender.realIp
    if bytes.all Http.isTextByte then [bytes] else []
  entries := batch.map Rpc.Entry.ofMetric

/-- What an attempt to make a call comes to. -/
def attempt (link : CallLink) (call : Rpc.Call) (number : Nat) : Attempt AttemptError Unit where
  duration := (link number call).delay.nanoseconds
  outcome := (link number call).result.mapError .call

/-- Sends a batch. -/
def send (sender : RpcSender) (link : CallLink) (batch : List Metric) : Delivery :=
  if sender.isClosed then .failure .closed
  else .make sender.patience (attempt link (sender.call batch))

/-- Closes the sender. -/
def close (sender : RpcSender) : RpcSender :=
  { sender with isClosed := true }

end RpcSender
end Sending
end Telemetry
