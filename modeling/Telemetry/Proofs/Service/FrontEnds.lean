import Telemetry.Proofs.Http.Authentic
import Telemetry.Proofs.Number.Digits
import Telemetry.Proofs.Service.Update
import Telemetry.Rpc.Server

/-!
# A call and a post of the same batch have the same effect

A list that is posted may be read as just what a receiver makes of the entries
of a call.  The call and the post then leave the same store and snapshot, give
the repository the same copy of the store and announce the same names, and the
failure of the one answers to the status of the other.
-/

namespace Telemetry
namespace Rpc

namespace Entry

/-- Whether an entry can be applied: it has a name, and its number stands for a kind. -/
def isUpdate (entry : Entry) : Bool :=
  entry.id != "" && (kindOf? entry.tag).isSome

/-- Why an entry that cannot be applied is refused: a missing name counts before anything else. -/
def refusal (entry : Entry) : MetricError :=
  if entry.id = "" then .missingId else .unknownType (toString entry.tag.toInt)

/-- The first of some entries that cannot be applied. -/
def firstBad? (entries : List Entry) : Option Entry :=
  entries.find? fun entry => !entry.isUpdate

end Entry

/-- A request posts a list that is read as what a receiver makes of some entries.  Its body is as
long as it may be at most, and so is the length that it announces. -/
structure Posts (request : Http.Request) (entries : List Entry) : Prop where
  posts : request.PostsBatch
  short : request.body.length ≤ Http.bodyLimit
  announced : ∀ length, request.declaredLength? = some length ->
    request.body.length ≤ length ∧ length ≤ Http.bodyLimit
  content : ∃ content, request.HasContent request.body content ∧
    Metric.listOfJson content = .ok (entries.map Entry.toMetric)

/-- The failure of a call answers to the status of a response: what the call blames on its entries
the response blames on the request, or on a kind that is not known, and what the call blames on the
server is an error of the server. -/
structure Corresponds (answer : Except CallError Unit) (response : Http.Response) : Prop where
  success : answer = .ok () ↔ response.status = 200
  invalid : (∃ message, answer = .error (.invalid message)) ↔
    response.status = 400 ∨ response.status = 501
  internal : (∃ message, answer = .error (.internal message)) ↔ response.status = 500

/-- Two updates of a state had the same effect, each with its own event: both changed the store in
the same way and gave the repository the same, wrote the same snapshot, and announced themselves
only if they were complete.  So they agree on every file that no sink appends to, above all on the
snapshot, and altogether if their events are the same. -/
structure SameEffect (service : Service) (before first second : Service.State)
    (firstEvent secondEvent : Audit.Event) (result : Except UpdateError Unit) : Prop where
  store : second.store = first.store
  synced : second.synced = first.synced
  pings : second.pings = first.pings
  world : ∃ saved,
    Service.SnapshotWritten service before.world saved first.store ∧
    Service.Announced (service.publisher.sinks.map Prod.snd) firstEvent saved first.world result ∧
    Service.Announced (service.publisher.sinks.map Prod.snd) secondEvent saved second.world
      result ∧
    ∀ location,
      (result = .ok () -> ∀ sink ∈ service.publisher.sinks.map Prod.snd,
        sink.appendsTo saved.files location = false) ->
      second.world.files.content? location = first.world.files.content? location ∧
      ∀ path, service.snapshot = some path ->
        Snapshot.CanWrite before.world.files path location ->
        first.world.files.read path = .ok (Snapshot.content first.store.metrics) ∧
          second.world.files.read path = .ok (Snapshot.content first.store.metrics)
  same : firstEvent = secondEvent -> second = first

/-! ## Entries as metrics -/

namespace Entry

@[simp] theorem id_toMetric (entry : Entry) : entry.toMetric.id = entry.id := by
  unfold toMetric
  split <;> rfl

/-- The text of a whole number is not the name of a kind. -/
theorem ofName?_toString (number : Int) : MetricKind.ofName? (toString number) = none := by
  have noU : 'u' ∉ (toString number).toList := by
    intro present
    rcases eq_minus_or_isDigit_of_mem_toString present with minus | digit
    · exact absurd minus (by decide)
    · exact absurd digit (by decide)
  rw [Option.eq_none_iff_forall_ne_some]
  intro kind named
  rw [MetricKind.ofName?_eq_some_iff.mp named] at noU
  revert noU
  cases kind <;> decide

/-- What becomes of an entry that is applied. -/
theorem toNamedUpdate_toMetric (entry : Entry) :
    (entry.isUpdate = true ∧ ∃ update, entry.toMetric.toNamedUpdate = .ok update) ∨
      (entry.isUpdate = false ∧ entry.toMetric.toNamedUpdate = .error entry.refusal) := by
  unfold Metric.toNamedUpdate isUpdate refusal
  rw [id_toMetric]
  by_cases unnamed : entry.id = ""
  · simp [unnamed]
  · rw [if_neg unnamed, if_neg unnamed]
    unfold toMetric
    cases kindOf? entry.tag with
    | none =>
        dsimp only
        rw [Metric.toUpdate, ofName?_toString]
        simp
    | some kind => cases kind <;> simp [unnamed]

end Entry

/-- Applying entries fails at the first that cannot be applied, with what that one is refused
for. -/
theorem applyMetrics_toMetric (store : Store) (entries : List Entry) :
    (Service.applyMetrics store (entries.map Entry.toMetric)).2 =
      match Entry.firstBad? entries with
      | none => .ok ()
      | some bad => .error bad.refusal := by
  induction entries generalizing store with
  | nil => rfl
  | cons entry rest inductionHypothesis =>
      rw [List.map_cons, Service.applyMetrics, Entry.firstBad?, List.find?_cons]
      rcases entry.toNamedUpdate_toMetric with ⟨good, update, named⟩ | ⟨bad, refused⟩
      · rw [named, good]
        exact inductionHypothesis (store.apply update)
      · rw [refused, bad]
        rfl

/-- An update from entries fails because of the first that cannot be applied, or because of the
repository if there is none. -/
theorem applyAndSync_toMetric
    (service : Service) (state : Service.State) (entries : List Entry) :
    match Entry.firstBad? entries with
    | some bad =>
        (service.applyAndSync state (entries.map Entry.toMetric)).2 =
          .error (.invalid bad.refusal)
    | none =>
        (service.applyAndSync state (entries.map Entry.toMetric)).2 = .ok () ∨
          ∃ error, (service.applyAndSync state (entries.map Entry.toMetric)).2 =
            .error (.unsaved error) := by
  have applied := applyMetrics_toMetric state.store entries
  unfold Service.applyAndSync
  cases outcome : Service.applyMetrics state.store (entries.map Entry.toMetric) with
  | mk store result =>
      rw [outcome] at applied
      cases found : Entry.firstBad? entries with
      | some bad =>
          rw [found] at applied
          dsimp only at applied ⊢
          rw [applied]
      | none =>
          rw [found] at applied
          dsimp only at applied ⊢
          rw [applied]
          dsimp only
          split
          · exact Or.inr ⟨_, rfl⟩
          · exact Or.inl rfl

/-! ## The two front ends -/

/-- A call to a server without a subnet is an update with its entries. -/
theorem handle_of_no_subnet
    (service : Service) (now : Int64) (state : Service.State) (call : Call) :
    ({ service } : Server).handle now state call =
      Prod.map id (Except.mapError ofUpdateError)
        (service.update state now (call.entries.map Entry.toMetric)
          (call.address?.getD "")) := by
  unfold Server.handle authorize
  dsimp only
  cases service.update state now (call.entries.map Entry.toMetric) (call.address?.getD "") with
  | mk changed result => cases result <;> rfl

/-- How a post of metrics is answered by a server without keys. -/
def answerPost (metrics : List Metric) : Except UpdateError Unit -> Http.Response
  | .ok () => .withBody 200 "application/json" (Bytes.ofText (Metric.listJson metrics))
  | .error error => Http.refuseUpdate error

/-- The body of a post of entries is read whole, as it was not announced as too long. -/
theorem Posts.readBody
    {request : Http.Request} {entries : List Entry}
    (carries : Posts request entries) :
    Http.Server.announcesTooMuch request = false ∧ request.readBody = .ok request.body := by
  unfold Http.Server.announcesTooMuch Http.Request.readBody
  cases declared : request.declaredLength? with
  | none => exact ⟨rfl, if_neg (by simpa using carries.short)⟩
  | some length =>
      obtain ⟨within, modest⟩ := carries.announced length declared
      refine ⟨by simpa using modest, if_neg ?_⟩
      rw [Option.getD_some, Nat.not_lt]
      exact Nat.le_min.mpr ⟨carries.short, within⟩

/-- A post of entries to a server without keys is an update with them. -/
theorem Posts.handle
    {request : Http.Request} {entries : List Entry}
    (carries : Posts request entries)
    (service : Service) (now : Int64) (state : Service.State) :
    ({ service } : Http.Server).handle now state request =
      Prod.map id (answerPost (entries.map Entry.toMetric))
        (service.update state now (entries.map Entry.toMetric) request.caller) := by
  obtain ⟨modest, whole⟩ := carries.readBody
  obtain ⟨content, hasContent, read⟩ := carries.content
  have accepted : ({ service } : Http.Server).readUpdate Metric.listOfJson request =
      .ok (entries.map Entry.toMetric) := by
    unfold Http.Server.readUpdate Http.openBody Http.checkSignature
    rw [whole]
    exact (Http.Server.readPayload_eq_ok_iff ..).mpr ⟨content, hasContent, read⟩
  rw [Http.Server.handle_of_post (Http.Route.ofPath?_of_postsBatch carries.posts)
    carries.posts.1 rfl, modest]
  change ({ service } : Http.Server).respondBatch now state request = _
  unfold Http.Server.respondBatch
  rw [accepted]
  dsimp only
  unfold Http.Server.respondUpdate
  cases service.update state now (entries.map Entry.toMetric) request.caller with
  | mk changed result => cases result <;> rfl

/-- The answers of the two front ends to one result correspond. -/
theorem corresponds (metrics : List Metric) (result : Except UpdateError Unit) :
    Corresponds (result.mapError ofUpdateError) (answerPost metrics result) := by
  cases result with
  | ok done => constructor <;> simp [Except.mapError, answerPost, Http.Response.withBody]
  | error error =>
      cases error with
      | unsaved error =>
          constructor <;> simp [Except.mapError, answerPost, ofUpdateError, Http.refuseUpdate,
            Http.Response.text, Http.Response.withBody]
      | invalid error =>
          cases error <;> constructor <;> simp [Except.mapError, answerPost, ofUpdateError,
            Http.refuseUpdate, Http.Response.text, Http.Response.withBody]

/-- A post fails with an unknown kind if that is what its first entry that cannot be applied has. -/
theorem status_eq_501_iff
    (service : Service) (state : Service.State) (metrics : List Metric) (entries : List Entry) :
    (answerPost metrics (service.applyAndSync state (entries.map Entry.toMetric)).2).status = 501 ↔
      ∃ bad, Entry.firstBad? entries = some bad ∧ bad.id ≠ "" ∧ kindOf? bad.tag = none := by
  have ended := applyAndSync_toMetric service state entries
  cases found : Entry.firstBad? entries with
  | none =>
      rw [found] at ended
      rcases ended with done | ⟨error, unsaved⟩
      · simp [done, answerPost, Http.Response.withBody]
      · simp [unsaved, answerPost, Http.refuseUpdate, Http.Response.text, Http.Response.withBody]
  | some bad =>
      rw [found] at ended
      dsimp only at ended
      have isBad : bad.isUpdate = false := by simpa using List.find?_some found
      rw [ended, Entry.refusal]
      by_cases unnamed : bad.id = ""
      · simp [unnamed, answerPost, Http.refuseUpdate, Http.Response.text, Http.Response.withBody]
      · have unknown : kindOf? bad.tag = none := by
          simpa [Entry.isUpdate, unnamed] using isBad
        simp [unnamed, unknown, answerPost, Http.refuseUpdate, Http.Response.text,
          Http.Response.withBody]

/-- Two updates of one state with the same metrics have the same effect, whenever they are made and
wherever they come from. -/
theorem sameEffect_update
    (service : Service) (state : Service.State) (metrics : List Metric)
    (firstTime secondTime : Int64) (firstAddress secondAddress : String) :
    SameEffect service state (service.update state firstTime metrics firstAddress).1
      (service.update state secondTime metrics secondAddress).1
      ⟨firstTime, metrics.map Metric.id, firstAddress⟩
      ⟨secondTime, metrics.map Metric.id, secondAddress⟩
      (service.applyAndSync state metrics).2 := by
  obtain ⟨_, _, _, _, unchanged, _, _⟩ := service.applyAndSync_spec state metrics
  obtain ⟨firstResult, ⟨firstStore, firstSynced, firstPings⟩, firstAnnounced⟩ :=
    service.update_after_applyAndSync state firstTime metrics firstAddress
  obtain ⟨secondResult, ⟨secondStore, secondSynced, secondPings⟩, secondAnnounced⟩ :=
    service.update_after_applyAndSync state secondTime metrics secondAddress
  rw [firstResult] at firstAnnounced
  rw [secondResult] at secondAnnounced
  let changed := (service.applyAndSync state metrics).1
  have written : Service.SnapshotWritten service state.world (service.saveSnapshot changed).world
      (service.update state firstTime metrics firstAddress).1.store := by
    have saved := service.snapshotWritten_saveSnapshot changed
    rwa [show changed.world = state.world from unchanged,
      ← show _ = changed.store from firstStore] at saved
  refine ⟨secondStore.trans firstStore.symm, secondSynced.trans firstSynced.symm,
    secondPings.trans firstPings.symm, ⟨_, written, firstAnnounced, secondAnnounced, ?_⟩, ?_⟩
  · intro location untouched
    refine ⟨(secondAnnounced.content?_eq untouched).trans
      (firstAnnounced.content?_eq untouched).symm, ?_⟩
    intro path place writable
    obtain ⟨found, holds⟩ := (written.written path place).2 location writable
    exact ⟨firstAnnounced.read_eq found holds untouched,
      secondAnnounced.read_eq found holds untouched⟩
  · rintro ⟨rfl, -, rfl⟩
    rfl

/--
A call to a server without a subnet and a post to a server without keys, of a list that is read as
what a receiver makes of the entries of the call, have the same effect on any state: the store, the
copies that the repository was given and the snapshot are the same, and the announced events have
the same names.  The failure of the call answers to the status of the response, and the status for
an unknown kind means that the first entry that cannot be applied has a name and no known kind.
-/
theorem call_and_post_agree
    (service : Service) (state : Service.State) (called posted : Int64)
    (call : Call) (request : Http.Request)
    (carries : Posts request call.entries) :
    let ofCall := ({ service } : Server).handle called state call
    let ofPost := ({ service } : Http.Server).handle posted state request
    (∃ result, ofCall.2 = result.mapError ofUpdateError ∧
      SameEffect service state ofCall.1 ofPost.1
        ⟨called, call.entries.map Entry.id, call.address?.getD ""⟩
        ⟨posted, call.entries.map Entry.id, request.caller⟩ result) ∧
    Corresponds ofCall.2 ofPost.2 ∧
    (ofPost.2.status = 501 ↔
      ∃ bad, Entry.firstBad? call.entries = some bad ∧ bad.id ≠ "" ∧ kindOf? bad.tag = none) := by
  intro ofCall ofPost
  let metrics := call.entries.map Entry.toMetric
  let result := (service.applyAndSync state metrics).2
  have isCall : ofCall = _ := handle_of_no_subnet service called state call
  have isPost : ofPost = _ := carries.handle service posted state
  have callResult : ofCall.2 = result.mapError ofUpdateError := by
    rw [isCall]
    exact congrArg (Except.mapError ofUpdateError)
      (service.update_after_applyAndSync state called metrics _).1
  have postResult : ofPost.2 = answerPost metrics result := by
    rw [isPost]
    exact congrArg (answerPost metrics)
      (service.update_after_applyAndSync state posted metrics _).1
  have names : metrics.map Metric.id = call.entries.map Entry.id := by
    simp [metrics, Function.comp_def]
  refine ⟨⟨result, callResult, ?_⟩, ?_, ?_⟩
  · rw [isCall, isPost, ← names]
    exact sameEffect_update service state metrics called posted _ _
  · rw [callResult, postResult]
    exact corresponds metrics result
  · rw [postResult]
    exact status_eq_501_iff service state metrics call.entries

/-- An entry in the middle of a batch has a number that stands for no kind: the update stops
there, the call fails because of an entry, and the post because of a kind that is not known. -/
theorem unknownKind_agrees :
    let entries : List Entry :=
      [{ id := "hits", tag := 1, delta := 5 }, { id := "load", tag := 7 }, { tag := 9 }]
    let call : Call := { addresses := [], entries }
    let request : Http.Request :=
      { method := "POST", target := "/updates/"
        body := Bytes.ofText
          "[[\"hits\",\"counter\",5],[\"load\",\"7\"],\x7b\"id\":\"\",\"type\":\"9\"\x7d]" }
    Posts request call.entries ∧
      (({ service := {} } : Http.Server).handle 0 {} request).2.status = 501 := by
  intro entries call request
  have decoded : (Metric.listOfJson request.body).toOption =
      some (entries.map Entry.toMetric) := by decide +kernel
  have read : Metric.listOfJson request.body = .ok (entries.map Entry.toMetric) :=
    Http.Server.eq_ok_of_toOption decoded
  have notZipped : request.isZipped = false := by decide +kernel
  have announced : request.declaredLength? = none := rfl
  have carries : Posts request call.entries :=
    ⟨⟨rfl, by decide +kernel⟩, by decide +kernel, by simp [announced], request.body,
      Http.Server.hasContent_of_not_isZipped notZipped _, read⟩
  exact ⟨carries, (call_and_post_agree {} {} 0 0 call request carries).2.2.mpr
    ⟨{ id := "load", tag := 7 }, by decide, by decide, by decide⟩⟩

end Rpc
end Telemetry
