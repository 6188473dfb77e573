import Telemetry.Http.Page
import Telemetry.Http.Target
import Telemetry.Payload
import Telemetry.Sealing.Payload
import Telemetry.Service
import Telemetry.Signature

/-!
# The HTTP server

A body with metrics goes through the steps of a sender backwards: it is opened
when it is sealed, its signature is checked, it is unzipped when it is zipped,
and then read as JSON.  Every response of JSON is signed.
-/

namespace Telemetry
namespace Http

/-- A server with its keys. -/
structure Server where
  /-- What is done with updates. -/
  service : Service
  /-- The key that requests and responses are signed with. -/
  signer : Option Signer := none
  /-- The key that opens sealed bodies. -/
  opener : Option Sealing.PrivateKey := none

/-- The most bytes of a body. -/
def bodyLimit : Nat := 10485760

/-- Whether one text occurs in another. -/
def occurs (part : List Char) : List Char -> Bool
  | [] => part.isEmpty
  | letter :: rest => part.isPrefixOf (letter :: rest) || occurs part rest

namespace Request

/-- Whether the body is said to be sealed. -/
def isSealed (request : Request) : Bool :=
  (request.header? "x-encrypted").any (sameIgnoringCase "true")

/-- Whether the body is said to be zipped. -/
def isZipped (request : Request) : Bool :=
  (request.header? "content-encoding").any fun text => occurs "gzip".toList text.toList

/-- The body, when it is no longer than it may be and was said to be. -/
def readBody (request : Request) : Except Response Bytes :=
  let limit := min bodyLimit (request.declaredLength?.getD bodyLimit)
  if limit < request.body.length then
    .error (.text 413 "Failed to buffer the request body: length limit exceeded")
  else .ok request.body

end Request

/-- Checks the signature of a payload, when there is a key to check it with. -/
def checkSignature (signer : Option Signer) (request : Request) (payload : Bytes) :
    Except Response Bytes :=
  match signer with
  | none => .ok payload
  | some signer =>
      match request.header? "hashsha256" with
      | none => .error (.text 400 "missing signature")
      | some signature =>
          if signer.verifies payload signature then .ok payload
          else .error (.text 400 "invalid signature")

/-- Opens a sealed body, when there is a key to open it with. -/
def openBody (opener : Option Sealing.PrivateKey) (request : Request) (body : Bytes) :
    Except Response Bytes :=
  match opener with
  | none => .ok body
  | some key =>
      if request.isSealed then
        match key.openPayload body with
        | .ok payload => .ok payload
        | .error error => .error (.text 400 ("failed to decrypt body: " ++ error.message))
      else .ok body

/-- The content of a payload that may be zipped. -/
def unzip (request : Request) (payload : Bytes) : Except Response Bytes :=
  if request.isZipped then
    match Compression.Gzip.decode Compression.Gzip.payloadLimit payload with
    | .ok content => .ok content
    | .error (.tooLarge limit) => .error (.text 413 (Compression.GzipError.tooLarge limit).message)
    | .error error => .error (.text 400 ("invalid gzip body: " ++ error.message))
  else .ok payload

/-- Reads the content of a payload as JSON. -/
def readPayload (read : Bytes -> Except Json.Fault α) (request : Request) (payload : Bytes) :
    Except Response α :=
  match unzip request payload with
  | .error response => .error response
  | .ok content =>
      match read content with
      | .ok value => .ok value
      | .error fault => .error (.text 400 ("invalid json: " ++ Payload.refusal fault))

/-- The response to an update that was not done. -/
def refuseUpdate : UpdateError -> Response
  | .invalid (.unknownType _) => .text 501 "unknown metric type"
  | .invalid error => .text 400 error.message
  | .unsaved error => .text 500 (UpdateError.unsaved error).message

/-- The response to a path with a segment that is no text. -/
def refuseSegment (name : String) : Response :=
  .text 400 ("Invalid URL: Invalid UTF-8 in \x60" ++ name ++ "\x60")

namespace Server

/-- Reads the authentic content of an update. -/
def readUpdate (server : Server) (read : Bytes -> Except Json.Fault α) (request : Request) :
    Except Response α :=
  match request.readBody with
  | .error response => .error response
  | .ok body =>
      match openBody server.opener request body with
      | .error response => .error response
      | .ok opened =>
          match checkSignature server.signer request opened with
          | .error response => .error response
          | .ok payload => readPayload read request payload

/-- A response of JSON, signed when there is a key. -/
def respondJson (server : Server) (text : String) : Response :=
  let body := Bytes.ofText text
  let response := Response.withBody 200 "application/json" body
  match server.signer with
  | none => response
  | some signer => response.withHeader "hashsha256" (signer.sign body)

/-- Makes an update and responds. -/
def respondUpdate (server : Server) (now : Int64) (state : Service.State) (request : Request)
    (metrics : List Metric) (done : Response) : Service.State × Response :=
  match server.service.update state now metrics request.caller with
  | (changed, .ok ()) => (changed, done)
  | (changed, .error error) => (changed, refuseUpdate error)

/-- Applies one metric of a body. -/
def respondMetric (server : Server) (now : Int64) (state : Service.State) (request : Request) :
    Service.State × Response :=
  match server.readUpdate Metric.ofJson request with
  | .error response => (state, response)
  | .ok metric =>
      server.respondUpdate now state request [metric] (server.respondJson metric.json)

/-- Applies the metrics of a body. -/
def respondBatch (server : Server) (now : Int64) (state : Service.State) (request : Request) :
    Service.State × Response :=
  match server.readUpdate Metric.listOfJson request with
  | .error response => (state, response)
  | .ok metrics =>
      server.respondUpdate now state request metrics (server.respondJson (Metric.listJson metrics))

/-- Applies one metric that is spelled in the path. -/
def respondPath (server : Server) (now : Int64) (state : Service.State) (request : Request)
    (type name raw : String) : Service.State × Response :=
  match segmentText? type, segmentText? name, segmentText? raw with
  | none, _, _ => (state, refuseSegment "mtype")
  | _, none, _ => (state, refuseSegment "name")
  | _, _, none => (state, refuseSegment "value")
  | some type, some name, some raw =>
      match Update.parse type name raw with
      | .error error => (state, refuseUpdate (.invalid error))
      | .ok update => server.respondUpdate now state request [update.toMetric] (.text 200 "")

/-- Looks up the metric that a body asks for. -/
def respondValue (server : Server) (store : Store) (request : Request) : Response :=
  match request.readBody with
  | .error response => response
  | .ok body =>
      match readPayload Metric.ofJson request body with
      | .error response => response
      | .ok wanted =>
          match MetricKind.ofName? wanted.type with
          | none => .text 501 "unknown metric type"
          | some kind =>
              match store.find? kind wanted.id with
              | none => .text 404 "not found"
              | some update => server.respondJson update.toMetric.json

/-- Looks up the metric that a path asks for. -/
def respondText (store : Store) (type name : String) : Response :=
  match segmentText? type, segmentText? name with
  | none, _ => refuseSegment "mtype"
  | _, none => refuseSegment "name"
  | some type, some name =>
      match MetricKind.ofName? type with
      | none => .text 400 "invalid metric type"
      | some kind =>
          match store.find? kind name with
          | none => .text 404 "not found"
          | some update => .text 200 update.valueText

/-- Asks whether the database is there. -/
def respondPing (server : Server) (state : Service.State) : Service.State × Response :=
  match server.service.ping state with
  | none => (state, .text 500 "database not configured")
  | some (asked, none) => (asked, .text 200 "OK")
  | some (asked, some error) =>
      (asked, .text 500 ("database not reachable: " ++ error.message))

/-- Does what a route is for. -/
def respond (server : Server) (now : Int64) (state : Service.State) (request : Request) :
    Route -> Service.State × Response
  | .page =>
      (state, .withBody 200 "text/html" (Bytes.ofText (Page.ofStore state.store)))
  | .ping => server.respondPing state
  | .update => server.respondMetric now state request
  | .updates => server.respondBatch now state request
  | .updatePath type name raw => server.respondPath now state request type name raw
  | .value => (state, server.respondValue state.store request)
  | .valuePath type name => (state, respondText state.store type name)

/-- Whether a request announces a body that is too long. -/
def announcesTooMuch (request : Request) : Bool :=
  request.declaredLength?.any (bodyLimit < ·)

/-- The response to a body that is announced as too long. -/
def tooMuch : Response :=
  .text 413 "length limit exceeded"

/--
Handles a request.  A body that is announced as too long is refused on every
route, and a request for the headers alone gets no body from a route that is
read.
-/
def handle (server : Server) (now : Int64) (state : Service.State) (request : Request) :
    Service.State × Response :=
  match Route.ofPath? request.path with
  | none => (state, if announcesTooMuch request then tooMuch else .bare 404)
  | some route =>
      if route.takes request.method then
        let (changed, response) :=
          if announcesTooMuch request then (state, tooMuch)
          else server.respond now state request route
        (changed, if request.method = "HEAD" then response.withoutBody else response)
      else
        let refusal := if announcesTooMuch request then tooMuch else .bare 405
        (state, refusal.withHeader "allow" route.methods)

end Server
end Http
end Telemetry
