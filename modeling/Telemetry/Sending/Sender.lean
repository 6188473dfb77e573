import Telemetry.Sending.Http
import Telemetry.Sending.Rpc
import Telemetry.Settings.Agent

/-!
# Choosing a sender

An agent with an address for calls makes calls; any other one posts requests.
-/

namespace Telemetry
namespace Sending

/-- Why a sender could not be made. -/
inductive SenderError where
  /-- The address for calls has not the form of one. -/
  | badEndpoint
  /-- The file with the key of the server cannot be read. -/
  | unreadableKey (path : String) (error : Files.FileError)
  /-- The file holds no key. -/
  | malformedKey
deriving DecidableEq

/-- A sender of either kind. -/
inductive Sender where
  /-- A sender of requests. -/
  | http (sender : HttpSender)
  /-- A sender of calls. -/
  | rpc (sender : RpcSender)

/-- The links that senders of either kind use. -/
structure Links where
  /-- How an address answers requests. -/
  http : Link
  /-- How a server replies to calls. -/
  rpc : CallLink

namespace Sender

/-- Makes a sender of calls. -/
def ofEndpoint (address realIp : String) (patience : Patience) : Except SenderError Sender :=
  if Rpc.isEndpoint address then .ok (.rpc { uri := Rpc.uriOf address, realIp, patience })
  else .error .badEndpoint

/-- Reads the key of a server from a file. -/
def readKey (files : Files.Tree) (path : String) : Except SenderError Sealing.PublicKey :=
  match files.readText path with
  | .error error => .error (.unreadableKey path error)
  | .ok text =>
      match Sealing.PublicKey.ofPem? (Bytes.ofText text) with
      | none => .error .malformedKey
      | some key => .ok key

/-- Reads the key of the server, when the settings name one. -/
def readKey? (files : Files.Tree) : Option String ->
    Except SenderError (Option Sealing.PublicKey)
  | none => .ok none
  | some path => (readKey files path).map some

/-- The sender that settings ask for. -/
def ofSettings (settings : AgentSettings) (files : Files.Tree) (realIp : String)
    (patience : Patience) : Except SenderError Sender :=
  match settings.grpcAddress with
  | some address => ofEndpoint address realIp patience
  | none =>
      (readKey? files settings.cryptoKey).map fun sealer =>
        .http
          { url := HttpSender.urlOf settings.address
            realIp, sealer, patience
            signer := settings.key.bind Signer.ofText? }

/-- Sends a batch. -/
def send (sender : Sender) (seeds : Nat -> Bytes) (links : Links) (batch : List Metric) :
    Sender × Delivery :=
  match sender with
  | .http sender =>
      let (used, delivery) := sender.send seeds links.http batch
      (.http used, delivery)
  | .rpc sender => (.rpc sender, sender.send links.rpc batch)

/-- Closes a sender; one of requests has nothing to close. -/
def close : Sender -> Sender
  | .http sender => .http sender
  | .rpc sender => .rpc sender.close

end Sender
end Sending
end Telemetry
