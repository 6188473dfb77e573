import Telemetry.Proofs.Audit

/-!
# What comes of offering an event

An event is offered to sinks one after the other, and each of them takes it or
fails.  Every event that a file sink takes is a line more in the file that its
path means, and a sink that fails leaves all others what they would have found
without it.
-/

namespace Telemetry
namespace Audit

/-- Two worlds with the same files that agree at every address that a sink does not post to. -/
structure AgreeSave (spared : Sink) (first second : World) : Prop where
  /-- The files. -/
  files : first.files = second.files
  /-- The other addresses. -/
  endpoints : ∀ url, spared ≠ .remote url ->
    first.endpoints.lookup url = second.endpoints.lookup url

/-- Two offers of one event to one sink, which came to the same unless the sink posts to the same
address as another one. -/
structure Offer.AgreeSave (spared : Sink) (first second : Offer) : Prop where
  /-- The sink. -/
  sink : first.sink = second.sink
  /-- The event. -/
  event : first.event = second.event
  /-- What came of it. -/
  result : (∀ url, spared = .remote url -> first.sink ≠ .remote url) ->
    first.result = second.result

/-- What the answer of an address means for an event. -/
def verdict : Option Nat -> Except SinkError Unit
  | none => .error .unreachable
  | some status => if status = 200 ∨ status = 201 then .ok () else .error (.refused status)

theorem publish_remote (url : String) (world : World) (event : Event) :
    (Sink.remote url).publish world event =
      ((world.post url (event.request url)).1, verdict (world.post url (event.request url)).2) := by
  unfold Sink.publish verdict
  dsimp only
  rcases world.post url (event.request url) with ⟨posted, _ | status⟩
  · rfl
  · dsimp only
    split <;> rfl

/-- The answer to a post, if there is one, depends on the address only. -/
theorem snd_post (world : World) (url : String) (request : Http.Request) :
    (world.post url request).2 =
      (world.endpoints.lookup url).map fun endpoint =>
        endpoint.status endpoint.received.length := by
  unfold World.post
  cases world.endpoints.lookup url <;> rfl

/-- A sink finds the same in worlds that agree. -/
theorem AgreeSave.publish
    {spared : Sink} {first second : World}
    (agree : AgreeSave spared first second)
    (sink : Sink) (event : Event) :
    AgreeSave spared (sink.publish first event).1 (sink.publish second event).1 ∧
      ((∀ url, spared = .remote url -> sink ≠ .remote url) ->
        (sink.publish first event).2 = (sink.publish second event).2) := by
  cases sink with
  | file path =>
      unfold Sink.publish
      dsimp only
      rw [agree.files]
      cases second.files.append path event.line with
      | error error => exact ⟨agree, fun _ => rfl⟩
      | ok files => exact ⟨⟨rfl, agree.endpoints⟩, fun _ => rfl⟩
  | remote target =>
      rw [publish_remote, publish_remote]
      refine ⟨⟨?_, fun url other => ?_⟩, fun apart => ?_⟩
      · rw [World.files_post, World.files_post, agree.files]
      · rw [World.lookup_post, World.lookup_post, agree.endpoints url other]
      · dsimp only
        have other : spared ≠ .remote target := fun same => apart target same rfl
        rw [snd_post, snd_post, agree.endpoints target other]

/-- Offers go on alike in worlds that agree. -/
theorem AgreeSave.offer
    {spared : Sink} {first second : World}
    (agree : AgreeSave spared first second)
    (event : Event) (sinks : List Sink) :
    AgreeSave spared (offer first event sinks) (offer second event sinks) ∧
      List.Forall₂ (Offer.AgreeSave spared) (offers first event sinks)
        (offers second event sinks) := by
  induction sinks generalizing first second with
  | nil => exact ⟨agree, .nil⟩
  | cons sink rest inductionHypothesis =>
      obtain ⟨next, result⟩ := agree.publish sink event
      obtain ⟨last, others⟩ := inductionHypothesis next
      exact ⟨last, .cons ⟨rfl, rfl, result⟩ others⟩

end Audit
end Telemetry
