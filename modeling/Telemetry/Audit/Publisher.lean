import Telemetry.Audit.Event
import Telemetry.World

/-!
# Publishing audit events

A sink takes events: a file gets one line for each, an address one request.
A publisher hands every event to its sinks in the order in which they were
attached, and a sink that fails changes nothing for the others.
-/

namespace Telemetry
namespace Audit

/-- Where events go. -/
inductive Sink where
  /-- A file, by its path. -/
  | file (path : String)
  /-- An address. -/
  | remote (url : String)
deriving DecidableEq

/-- Why a sink did not take an event. -/
inductive SinkError where
  /-- The file could not be written. -/
  | write (path : String) (error : Files.FileError)
  /-- The address could not be reached. -/
  | unreachable
  /-- The address answered with a status that refuses the event. -/
  | refused (status : Nat)
deriving DecidableEq

/-- The wording of a refusing status. -/
def SinkError.refusal (status : Nat) : String :=
  "audit server returned status " ++ toString status

/-- The line of an event in a file. -/
def Event.line (event : Event) : Bytes :=
  Bytes.ofText (event.json ++ "\n")

/-- The lines of a content without their line feeds; the last line may lack one. -/
def linesOf (content : Bytes) : List Bytes :=
  (content.splitBy fun byte _ => byte != 10).map fun line => line.filter (· != 10)

/-- The events of a file. -/
def Event.ofLines (content : Bytes) : List (Except Json.Fault Event) :=
  (linesOf content).map Event.ofJson

/-- The request that carries an event. -/
def Event.request (event : Event) (url : String) : Http.Request :=
  { method := "POST"
    target := url
    headers := [("content-type", Bytes.ofText "application/json")]
    body := Bytes.ofText event.json }

namespace Sink

/-- The shown text of a sink. -/
def display : Sink -> String
  | .file path => "file:" ++ path
  | .remote url => "http:" ++ url

/-- Makes a sink ready: the directory of its file is made, if that is possible. -/
def prepare (sink : Sink) (world : World) : World :=
  match sink with
  | .file path => { world with files := world.files.makeParentOf path }
  | .remote _ => world

/-- Hands an event to a sink. -/
def publish (sink : Sink) (world : World) (event : Event) : World × Except SinkError Unit :=
  match sink with
  | .file path =>
      match world.files.append path event.line with
      | .ok files => ({ world with files }, .ok ())
      | .error error => (world, .error (.write path error))
  | .remote url =>
      match world.post url (event.request url) with
      | (posted, none) => (posted, .error .unreachable)
      | (posted, some status) =>
          if status = 200 ∨ status = 201 then (posted, .ok ())
          else (posted, .error (.refused status))

end Sink

/-- What came of offering an event to a sink. -/
structure Offer where
  /-- The sink. -/
  sink : Sink
  /-- The event. -/
  event : Event
  /-- Whether the sink took the event. -/
  result : Except SinkError Unit

/-- What handing an event to sinks has led to. -/
structure Notice where
  /-- The files and addresses afterwards. -/
  world : World
  /-- The offers of the event, in the order in which they were made. -/
  offers : List Offer := []

/-- Where the offers do not matter, a notice stands for the world that it leaves. -/
instance : Coe Notice World := ⟨Notice.world⟩

/-- Offers the event of a notice to one more sink, whatever came of the offers before. -/
def Notice.offer (notice : Notice) (event : Event) (sink : Sink) : Notice :=
  let (world, result) := sink.publish notice.world event
  { world, offers := notice.offers ++ [⟨sink, event, result⟩] }

/-- What a sink is detached by. -/
structure Handle where
  /-- The number of the handle; handles are counted in 64 bits, which overflow. -/
  number : UInt64
deriving DecidableEq

/-- The handle of the sink before which so many have been attached. -/
instance : NatCast Handle := ⟨fun count => ⟨.ofNat count⟩⟩

/-- The sinks that are attached, each under its handle. -/
structure Publisher where
  /-- The sinks with their handles, in the order in which they were attached. -/
  sinks : List (Handle × Sink) := []
  /-- The number of the next handle. -/
  next : UInt64 := 0

namespace Publisher

/-- Attaches a sink and tells its handle. -/
def attach (publisher : Publisher) (sink : Sink) : Handle × Publisher :=
  let handle : Handle := ⟨publisher.next⟩
  (handle, ⟨publisher.sinks ++ [(handle, sink)], publisher.next + 1⟩)

/-- Detaches the sink of a handle and tells whether it was attached. -/
def detach (publisher : Publisher) (handle : Handle) : Bool × Publisher :=
  (publisher.sinks.any (·.1 == handle),
    { publisher with sinks := publisher.sinks.filter (·.1 != handle) })

/-- Whether a sink is attached. -/
def hasSinks (publisher : Publisher) : Bool :=
  !publisher.sinks.isEmpty

/-- Offers an event to every sink, to one after the other. -/
def notify (publisher : Publisher) (world : World) (event : Event) : Notice :=
  publisher.sinks.foldl (fun notice entry => notice.offer event entry.2) { world }

end Publisher
end Audit
end Telemetry
