import Telemetry.Http.Message
import Telemetry.Payload
import Telemetry.Sending.Delivery
import Telemetry.Signature

/-!
# Posting batches

A batch is zipped, signed in its zipped form and then sealed.  The request is
made once, and every attempt posts the same one.
-/

namespace Telemetry
namespace Sending

/-- What comes of a posted request. -/
structure Answer where
  /-- The time until the answer. -/
  delay : TimeSpan
  /-- The status, unless the connection breaks. -/
  status : Option Nat

/-- How an address answers the requests of a delivery, counted from zero. -/
abbrev Link := Nat -> Http.Request -> Answer

/-- The time in which a request has to be answered. -/
def answerLimit : TimeSpan := .ofSeconds 5

/-- Whether a byte may occur in the value of a header that is sent. -/
def isHeaderByte (byte : UInt8) : Bool :=
  (32 ≤ byte && byte != 127) || byte == 9

/-- A sender of requests. -/
structure HttpSender where
  /-- The address that batches are posted to. -/
  url : String
  /-- The address that the sender gives as its own. -/
  realIp : String
  /-- The signing key, when requests are signed. -/
  signer : Option Signer := none
  /-- The key of the server, when payloads are sealed. -/
  sealer : Option Sealing.PublicKey := none
  /-- How the sender goes about a delivery. -/
  patience : Patience := {}
  /-- The buffers for batches. -/
  pool : Pool := { maxIdle := 8 }
  /-- How batches are zipped. -/
  zip : Bytes -> Bytes := Compression.Gzip.encode

namespace HttpSender

/-- Whether an address names its scheme. -/
def hasScheme (address : List Char) : Bool :=
  "http://".toList.isPrefixOf address || "https://".toList.isPrefixOf address

/-- The address for batches of a server; a server without a scheme gets one. -/
def urlOf (address : String) : String :=
  let letters := address.toList
  if hasScheme letters then
    String.ofList (letters.reverse.dropWhile (· == '/')).reverse ++ "/updates/"
  else "http://" ++ address ++ "/updates/"

/-- The path of the address that batches are posted to. -/
def target (sender : HttpSender) : String :=
  let afterScheme := (sender.url.toList.dropWhile (· != ':')).drop 3
  String.ofList (afterScheme.dropWhile (· != '/'))

/-- The request with a payload. -/
def request (sender : HttpSender) (payload : Bytes) (signature : Option String) :
    Http.Request where
  method := "POST"
  target := sender.target
  headers :=
    [("content-type", Bytes.ofText "application/json"),
        ("content-encoding", Bytes.ofText "gzip"),
        ("x-real-ip", Bytes.ofText sender.realIp)]
      ++ (sender.sealer.map fun _ => ("x-encrypted", Bytes.ofText "true")).toList
      ++ (signature.map fun text => ("hashsha256", Bytes.ofText text)).toList
  body := payload

/-- Seals a payload, when there is a key for it. -/
def sealWith (sender : HttpSender) (seeds : Nat -> Bytes) (payload : Bytes) :
    Except Sealing.SealError Bytes :=
  match sender.sealer with
  | none => .ok payload
  | some key => key.sealPayload seeds payload

/-- Makes the request for a batch; the buffer for it is given back. -/
def prepare (sender : HttpSender) (seeds : Nat -> Bytes) (batch : List Metric) :
    HttpSender × Except Sealing.SealError Http.Request :=
  let (encoded, pool) := Payload.encodeBatchWith sender.zip sender.pool batch
  let signature := sender.signer.map fun signer => signer.sign encoded.gzip
  ({ sender with pool },
    (sender.sealWith seeds encoded.gzip).map fun payload => sender.request payload signature)

/-- What an attempt to post a request comes to. -/
def attempt (link : Link) (request : Http.Request) (number : Nat) : Attempt AttemptError Unit :=
  let answer := link number request
  if answer.delay.nanoseconds ≤ answerLimit.nanoseconds then
    { duration := answer.delay.nanoseconds
      outcome :=
        match answer.status with
        | none => .error .unreachable
        | some status => if status = 200 then .ok () else .error (.refused status) }
  else { duration := answerLimit.nanoseconds, outcome := .error .unreachable }

/-- What an attempt comes to whose request has a header that cannot be sent. -/
def unsendable : Attempt AttemptError Unit where
  duration := 0
  outcome := .error .unreachable

/-- Posts a request until it is taken. -/
def post (sender : HttpSender) (link : Link) (request : Http.Request) : Delivery :=
  if (Bytes.ofText sender.realIp).all isHeaderByte then
    Delivery.make sender.patience (attempt link request)
  else { Delivery.make sender.patience fun _ => unsendable with starts := [] }

/-- Sends a batch. -/
def send (sender : HttpSender) (seeds : Nat -> Bytes) (link : Link) (batch : List Metric) :
    HttpSender × Delivery :=
  match sender.prepare seeds batch with
  | (prepared, .error error) => (prepared, .failure (.unsealed error))
  | (prepared, .ok request) => (prepared, prepared.post link request)

end HttpSender
end Sending
end Telemetry
