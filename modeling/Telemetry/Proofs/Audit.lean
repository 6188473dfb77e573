import Telemetry.Audit.Publisher
import Telemetry.Proofs.Entries
import Telemetry.Proofs.Files

/-!
# What sinks do to the world

A publisher offers an event once to each of its sinks, in their order.  An
address that can be reached receives one request for each sink that posts to
it, and a file grows by one line for each sink that appends to it.
-/

namespace Telemetry

namespace World

/-- What is at an address after posting to one. -/
theorem lookup_post
    (world : World) (url : String) (request : Http.Request) (other : String) :
    (world.post url request).1.endpoints.lookup other =
      (world.endpoints.lookup other).map fun endpoint =>
        if url = other then { endpoint with received := endpoint.received ++ [request] }
        else endpoint := by
  unfold post
  cases found : world.endpoints.lookup url with
  | none =>
      by_cases same : url = other
      · subst same
        simp [found]
      · simp [same]
  | some endpoint =>
      by_cases same : url = other
      · subst same
        simp [found]
      · have different : other ≠ url := Ne.symm same
        have skipped : (other == url) = false := by simpa using different
        simp [List.lookup_cons, lookup_filter_ne _ _ _ different, skipped, same]

/-- Posting to an address leaves open which addresses can be reached. -/
theorem isSome_lookup_post
    (world : World) (url : String) (request : Http.Request) (other : String) :
    ((world.post url request).1.endpoints.lookup other).isSome =
      (world.endpoints.lookup other).isSome := by
  rw [lookup_post, Option.isSome_map]

/-- An address that can be reached receives what is posted to it, and no other does. -/
theorem received_post
    (world : World) (url : String) (request : Http.Request) (other : String) :
    (world.post url request).1.received other =
      if url = other ∧ (world.endpoints.lookup other).isSome then world.received other ++ [request]
      else world.received other := by
  unfold received
  rw [lookup_post]
  cases world.endpoints.lookup other with
  | none => simp
  | some endpoint => by_cases same : url = other <;> simp [same]

@[simp] theorem files_post (world : World) (url : String) (request : Http.Request) :
    (world.post url request).1.files = world.files := by
  unfold post
  split <;> rfl

end World

namespace Audit
namespace Sink

/-- Whether a sink appends to the file at a location. -/
def appendsTo (tree : Files.Tree) (location : Files.Location) : Sink -> Bool
  | .file path =>
      match tree.locateFile path with
      | .ok found => found == location
      | .error _ => false
  | .remote _ => false

theorem appendsTo_of_sameDirectories
    {tree other : Files.Tree}
    (same : Files.Tree.SameDirectories tree other)
    (location : Files.Location) (sink : Sink) :
    sink.appendsTo other location = sink.appendsTo tree location := by
  cases sink with
  | remote url => rfl
  | file path =>
      have locates := Files.Tree.locateFile_eq_ok_iff_of_sameDirectories same path
      rw [Bool.eq_iff_iff]
      unfold appendsTo
      dsimp only
      have ok_iff : ∀ (answer : Except Files.FileError Files.Location),
          (match answer with
            | .ok found => found == location
            | .error _ => false) = true ↔ answer = .ok location := by
        intro answer
        cases answer <;> simp
      rw [ok_iff, ok_iff, locates]

/-- A sink changes files, if any, by appending a line to one of them. -/
theorem files_publish
    (sink : Sink) (world : World) (event : Event) :
    Files.Tree.SameDirectories world.files (sink.publish world event).1.files ∧
      ∀ location, (sink.publish world event).1.files.content? location =
        if sink.appendsTo world.files location then
          some ((world.files.content? location).getD [] ++ event.line)
        else world.files.content? location := by
  cases sink with
  | remote url =>
      have files : ((Sink.remote url).publish world event).1.files = world.files := by
        unfold publish
        dsimp only
        rw [← World.files_post world url (event.request url)]
        split
        next posted answer => rw [answer]
        next posted status answer => rw [answer]; split <;> rfl
      rw [files]
      exact ⟨.refl _, fun _ => rfl⟩
  | file path =>
      unfold publish
      dsimp only
      cases appended : world.files.append path event.line with
      | error error =>
          refine ⟨.refl _, fun location => ?_⟩
          have nowhere : (Sink.file path).appendsTo world.files location = false := by
            unfold Files.Tree.append at appended
            cases found : world.files.locateFile path with
            | error error => simp [appendsTo, found]
            | ok location => rw [found] at appended; cases appended
          simp [nowhere]
      | ok grown =>
          obtain ⟨same, target, found, contents⟩ := Files.Tree.append_spec appended
          refine ⟨same, fun location => ?_⟩
          rw [contents location]
          by_cases here : target = location
          · subst here
            simp [appendsTo, found]
          · simp [appendsTo, found, here]

/-- A sink that posts to an address is seen there, when it can be reached. -/
theorem received_publish
    (sink : Sink) (world : World) (event : Event) (url : String) :
    ((sink.publish world event).1.endpoints.lookup url).isSome =
        (world.endpoints.lookup url).isSome ∧
      (sink.publish world event).1.received url =
        if sink = .remote url ∧ (world.endpoints.lookup url).isSome then
          world.received url ++ [event.request url]
        else world.received url := by
  cases sink with
  | file path =>
      have endpoints : ((Sink.file path).publish world event).1.endpoints = world.endpoints := by
        unfold publish
        dsimp only
        split <;> rfl
      simp [World.received, endpoints]
  | remote target =>
      have posted : ((Sink.remote target).publish world event).1 =
          (world.post target (event.request target)).1 := by
        unfold publish
        dsimp only
        split
        next posted answer => rw [answer]
        next posted status answer => rw [answer]; split <;> rfl
      rw [posted, World.isSome_lookup_post, World.received_post]
      refine ⟨rfl, ?_⟩
      by_cases same : target = url
      · subst same
        simp only
      · simp [same]

end Sink

/-- The world after an event has been offered to sinks in order. -/
def offer (world : World) (event : Event) (sinks : List Sink) : World :=
  sinks.foldl (fun reached sink => (sink.publish reached event).1) world

/-- The offers of an event to sinks in order. -/
def offers (world : World) (event : Event) : List Sink -> List Offer
  | [] => []
  | sink :: rest =>
      ⟨sink, event, (sink.publish world event).2⟩ :: offers (sink.publish world event).1 event rest

@[simp] theorem offers_nil (world : World) (event : Event) : offers world event [] = [] := rfl

@[simp] theorem offers_cons (world : World) (event : Event) (sink : Sink) (rest : List Sink) :
    offers world event (sink :: rest) =
      ⟨sink, event, (sink.publish world event).2⟩ ::
        offers (sink.publish world event).1 event rest := rfl

@[simp] theorem offer_nil (world : World) (event : Event) : offer world event [] = world := rfl

@[simp] theorem offer_cons (world : World) (event : Event) (sink : Sink) (rest : List Sink) :
    offer world event (sink :: rest) = offer (sink.publish world event).1 event rest := rfl

/-- A file grows by one line for each sink that appends to it; no other content changes. -/
theorem files_offer
    (world : World) (event : Event) (sinks : List Sink) :
    Files.Tree.SameDirectories world.files (offer world event sinks).files ∧
      ∀ location, (offer world event sinks).files.content? location =
        let lines := List.replicate (sinks.countP (Sink.appendsTo world.files location)) event.line
        if lines = [] then world.files.content? location
        else some ((world.files.content? location).getD [] ++ lines.flatten) := by
  induction sinks generalizing world with
  | nil => exact ⟨.refl _, fun location => by simp [offer]⟩
  | cons sink rest inductionHypothesis =>
      obtain ⟨same, contents⟩ := sink.files_publish world event
      obtain ⟨sameRest, contentsRest⟩ := inductionHypothesis (sink.publish world event).1
      refine ⟨same.trans sameRest, fun location => ?_⟩
      have counted : rest.countP (Sink.appendsTo (sink.publish world event).1.files location) =
          rest.countP (Sink.appendsTo world.files location) :=
        congrArg (rest.countP ·) (funext (Sink.appendsTo_of_sameDirectories same location))
      have step := contentsRest location
      rw [counted, contents location] at step
      rw [List.countP_cons]
      change (offer (sink.publish world event).1 event rest).files.content? location = _
      rw [step]
      by_cases appends : sink.appendsTo world.files location
      · simp only [appends, if_true]
        rw [List.replicate_succ]
        cases List.countP (Sink.appendsTo world.files location) rest <;> simp [List.replicate_succ]
      · simp [appends]

/-- An address that can be reached receives one request for each sink that posts to it. -/
theorem received_offer
    (world : World) (event : Event) (sinks : List Sink) (url : String) :
    (offer world event sinks).received url =
      world.received url ++
        (if (world.endpoints.lookup url).isSome then
          List.replicate (sinks.count (.remote url)) (event.request url)
        else []) := by
  induction sinks generalizing world with
  | nil => simp [offer]
  | cons sink rest inductionHypothesis =>
      obtain ⟨reachable, received⟩ := sink.received_publish world event url
      change (offer (sink.publish world event).1 event rest).received url = _
      rw [inductionHypothesis, reachable, received, List.count_cons]
      by_cases posts : sink = .remote url
      · by_cases reached : (world.endpoints.lookup url).isSome
        · simp [posts, reached, List.replicate_succ]
        · simp [reached]
      · simp [posts]

/-- Offers that follow those of a notice are noted behind them. -/
theorem foldl_offer (notice : Notice) (event : Event) (sinks : List Sink) :
    sinks.foldl (fun reached sink => reached.offer event sink) notice =
      ⟨offer notice.world event sinks, notice.offers ++ offers notice.world event sinks⟩ := by
  induction sinks generalizing notice with
  | nil => rw [offers_nil, List.append_nil, offer_nil, List.foldl_nil]
  | cons sink rest inductionHypothesis =>
      rw [List.foldl_cons, inductionHypothesis, offer_cons, offers_cons]
      simp only [Notice.offer, List.append_assoc, List.singleton_append]

/-- A publisher offers an event once to each of its sinks, in their order. -/
theorem Publisher.notify_eq_offers
    (publisher : Publisher) (world : World) (event : Event) :
    publisher.notify world event =
      ⟨offer world event (publisher.sinks.map Prod.snd),
        offers world event (publisher.sinks.map Prod.snd)⟩ := by
  have noted := foldl_offer { world } event (publisher.sinks.map Prod.snd)
  rw [List.foldl_map] at noted
  exact noted

end Audit
end Telemetry
