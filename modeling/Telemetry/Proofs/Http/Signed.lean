import Telemetry.Proofs.Http.Segments
import Telemetry.Proofs.Signature

/-!
# Every answer of JSON is signed, and nothing else

A server with a key signs the body of every answer of JSON and no other answer;
a server without one signs nothing.  The answer to an update is the JSON of what
was read from the request, and the answer to a lookup is the JSON of what is
stored.  A lookup in a body succeeds exactly when the one in a path does.
-/

namespace Telemetry
namespace Http

namespace Response

/-- The signature that a response carries, if it carries one. -/
def signature? (response : Response) : Option String :=
  response.header? "hashsha256"

/-- The response is a successful one of JSON. -/
def IsJson (response : Response) : Prop :=
  response.status = 200 ∧ response.header? "content-type" = some "application/json"

/-- The response is a text and says that something was refused. -/
def IsRefusal (response : Response) : Prop :=
  ∃ status message, response = .text status message ∧ status ≠ 200

/-- The response is neither signed nor one of JSON. -/
def IsPlain (response : Response) : Prop :=
  response.signature? = none ∧ response.header? "content-type" ≠ some "application/json"

end Response

namespace Request

/-- The request posts to one of the paths that are answered with JSON. -/
def PostsForJson (request : Request) : Prop :=
  request.method = "POST" ∧
    request.path ∈ ["/update", "/update/", "/updates/", "/value", "/value/"].map String.toList

/-- The request asks in its body for the value of a metric. -/
def PostsLookup (request : Request) : Prop :=
  request.method = "POST" ∧
    (request.path = "/value".toList ∨ request.path = "/value/".toList)

/-- The body of the request is not too long and is read as the metric that is asked for. -/
structure AsksFor (request : Request) (wanted : Metric) : Prop where
  modest : Server.announcesTooMuch request = false
  whole : request.readBody = .ok request.body
  reads : readPayload Metric.ofJson request request.body = .ok wanted

end Request

/-- The store holds a value of the type and name of a metric. -/
def StoredAs (store : Store) (wanted : Metric) (update : Update) : Prop :=
  ∃ kind, MetricKind.ofName? wanted.type = some kind ∧ store.find? kind wanted.id = some update

namespace Route

/-- The routes that are answered with JSON. -/
def answersJson : Route -> Bool
  | .update => true
  | .updates => true
  | .value => true
  | _ => false

theorem path_of_value
    {path : List Char}
    (found : ofPath? path = some .value) :
    path = "/value".toList ∨ path = "/value/".toList := by
  unfold ofPath? at found
  split at found
  case h_6 cut => exact Or.inl (intercalate_segments cut)
  case h_7 cut => exact Or.inr (intercalate_segments cut)
  all_goals simp at found

/-- A lookup in a body goes to the route for lookups. -/
theorem ofPath?_of_postsLookup
    {request : Request}
    (posts : request.PostsLookup) :
    ofPath? request.path = some .value := by
  rcases posts.2 with path | path <;> rw [path] <;> decide

end Route

/-! ## Plain responses -/

theorem isPlain_text (status : Nat) (message : String) : (Response.text status message).IsPlain :=
  ⟨rfl, fun same => absurd (Option.some.inj same) (by decide)⟩

theorem isPlain_bare (status : Nat) : (Response.bare status).IsPlain :=
  ⟨rfl, fun same => by cases same⟩

theorem isPlain_page (content : Bytes) : (Response.withBody 200 "text/html" content).IsPlain :=
  ⟨rfl, fun same => absurd (Option.some.inj same) (by decide)⟩

theorem isPlain_withAllow
    {response : Response}
    (plain : response.IsPlain) (methods : String) :
    (response.withHeader "allow" methods).IsPlain := by
  have unchanged (name : String) (other : (name == "allow") = false) :
      (response.withHeader "allow" methods).header? name = response.header? name := by
    rw [Response.header?, Response.withHeader, List.lookup_append, List.lookup_cons, other]
    exact Option.or_none
  obtain ⟨unsigned, noJson⟩ := plain
  constructor
  · rw [Response.signature?, unchanged _ (by decide)]
    exact unsigned
  · rw [unchanged _ (by decide)]
    exact noJson

theorem Response.IsRefusal.isPlain
    {response : Response}
    (refusal : response.IsRefusal) :
    response.IsPlain := by
  obtain ⟨status, message, rfl, -⟩ := refusal
  exact isPlain_text status message

theorem Response.IsRefusal.status_ne
    {response : Response}
    (refusal : response.IsRefusal) :
    response.status ≠ 200 := by
  obtain ⟨status, message, rfl, failed⟩ := refusal
  exact failed

/-! ## Refusals -/

theorem isRefusal_refuseUpdate (error : UpdateError) : (refuseUpdate error).IsRefusal := by
  unfold refuseUpdate
  split <;> exact ⟨_, _, rfl, by decide⟩

theorem isRefusal_of_readBody_eq_error
    {request : Request} {response : Response}
    (refused : request.readBody = .error response) :
    response.IsRefusal := by
  unfold Request.readBody at refused
  dsimp only at refused
  split at refused
  · cases refused
    exact ⟨_, _, rfl, by decide⟩
  · cases refused

theorem isRefusal_of_openBody_eq_error
    {opener : Option Sealing.PrivateKey} {request : Request} {body : Bytes} {response : Response}
    (refused : openBody opener request body = .error response) :
    response.IsRefusal := by
  unfold openBody at refused
  split at refused
  · cases refused
  · split at refused
    · split at refused
      · cases refused
      · cases refused
        exact ⟨_, _, rfl, by decide⟩
    · cases refused

theorem isRefusal_of_checkSignature_eq_error
    {signer : Option Signer} {request : Request} {payload : Bytes} {response : Response}
    (refused : checkSignature signer request payload = .error response) :
    response.IsRefusal := by
  unfold checkSignature at refused
  split at refused
  · cases refused
  · split at refused
    · cases refused
      exact ⟨_, _, rfl, by decide⟩
    · split at refused
      · cases refused
      · cases refused
        exact ⟨_, _, rfl, by decide⟩

theorem isRefusal_of_unzip_eq_error
    {request : Request} {payload : Bytes} {response : Response}
    (refused : unzip request payload = .error response) :
    response.IsRefusal := by
  unfold unzip at refused
  split at refused
  · split at refused <;> cases refused <;> exact ⟨_, _, rfl, by decide⟩
  · cases refused

theorem isRefusal_of_readPayload_eq_error
    {read : Bytes -> Except Json.Fault α} {request : Request} {payload : Bytes}
    {response : Response}
    (refused : readPayload read request payload = .error response) :
    response.IsRefusal := by
  unfold readPayload at refused
  split at refused
  next unzipped =>
    cases refused
    exact isRefusal_of_unzip_eq_error unzipped
  next =>
    split at refused
    · cases refused
    · cases refused
      exact ⟨_, _, rfl, by decide⟩

namespace Server

theorem isRefusal_of_readUpdate_eq_error
    {server : Server} {read : Bytes -> Except Json.Fault α} {request : Request}
    {response : Response}
    (refused : server.readUpdate read request = .error response) :
    response.IsRefusal := by
  unfold readUpdate at refused
  split at refused
  next tooLong =>
    cases refused
    exact isRefusal_of_readBody_eq_error tooLong
  next =>
    split at refused
    next sealed =>
      cases refused
      exact isRefusal_of_openBody_eq_error sealed
    next =>
      split at refused
      next unsigned =>
        cases refused
        exact isRefusal_of_checkSignature_eq_error unsigned
      next => exact isRefusal_of_readPayload_eq_error refused

/-! ## What the routes respond -/

/-- An update is answered as it was to be when it was done, and is refused otherwise. -/
theorem respondUpdate_cases
    (server : Server) (now : Int64) (state : Service.State) (request : Request)
    (metrics : List Metric) (done : Response) :
    ((server.service.update state now metrics request.caller).2 = .ok () ∧
        (server.respondUpdate now state request metrics done).2 = done) ∨
      (server.respondUpdate now state request metrics done).2.IsRefusal := by
  unfold respondUpdate
  cases server.service.update state now metrics request.caller with
  | mk changed result =>
      cases result with
      | ok done => exact Or.inl ⟨rfl, rfl⟩
      | error error => exact Or.inr (isRefusal_refuseUpdate error)

/-- A metric in a body is answered with its JSON when it was applied, and is refused otherwise. -/
theorem respondMetric_cases
    (server : Server) (now : Int64) (state : Service.State) (request : Request) :
    (∃ metric, server.readUpdate Metric.ofJson request = .ok metric ∧
        (server.service.update state now [metric] request.caller).2 = .ok () ∧
        (server.respondMetric now state request).2 = server.respondJson metric.json) ∨
      (server.respondMetric now state request).2.IsRefusal := by
  unfold respondMetric
  cases read : server.readUpdate Metric.ofJson request with
  | error response => exact Or.inr (isRefusal_of_readUpdate_eq_error read)
  | ok metric =>
      exact (server.respondUpdate_cases now state request [metric]
        (server.respondJson metric.json)).imp_left fun done => ⟨metric, rfl, done⟩

/-- A list of metrics in a body is answered with its JSON when it was applied, and is refused
otherwise. -/
theorem respondBatch_cases
    (server : Server) (now : Int64) (state : Service.State) (request : Request) :
    (∃ metrics, server.readUpdate Metric.listOfJson request = .ok metrics ∧
        (server.service.update state now metrics request.caller).2 = .ok () ∧
        (server.respondBatch now state request).2 =
          server.respondJson (Metric.listJson metrics)) ∨
      (server.respondBatch now state request).2.IsRefusal := by
  unfold respondBatch
  cases read : server.readUpdate Metric.listOfJson request with
  | error response => exact Or.inr (isRefusal_of_readUpdate_eq_error read)
  | ok metrics =>
      exact (server.respondUpdate_cases now state request metrics
        (server.respondJson (Metric.listJson metrics))).imp_left fun done => ⟨metrics, rfl, done⟩

/-- A lookup in a body that can be read is answered with the JSON of what is stored, and is refused
if nothing is. -/
theorem respondValue_of_reads
    {request : Request} {wanted : Metric}
    (whole : request.readBody = .ok request.body)
    (reads : readPayload Metric.ofJson request request.body = .ok wanted)
    (server : Server) (store : Store) :
    (∃ update, StoredAs store wanted update ∧
        server.respondValue store request = server.respondJson update.toMetric.json) ∨
      (∀ update, ¬StoredAs store wanted update) ∧
        (server.respondValue store request).IsRefusal := by
  unfold respondValue StoredAs
  rw [whole]
  dsimp only
  rw [reads]
  dsimp only
  cases named : MetricKind.ofName? wanted.type with
  | none => exact Or.inr ⟨fun update stored => by simp at stored, _, _, rfl, by decide⟩
  | some kind =>
      dsimp only
      cases stored : store.find? kind wanted.id with
      | none =>
          refine Or.inr ⟨?_, _, _, rfl, by decide⟩
          rintro update ⟨other, same, found⟩
          cases same
          rw [stored] at found
          cases found
      | some update => exact Or.inl ⟨update, ⟨kind, rfl, stored⟩, rfl⟩

/-- A lookup in a body is answered with the JSON of what is stored, and is refused otherwise. -/
theorem respondValue_cases
    (server : Server) (store : Store) (request : Request) :
    (∃ wanted update, request.readBody = .ok request.body ∧
        readPayload Metric.ofJson request request.body = .ok wanted ∧
        StoredAs store wanted update ∧
        server.respondValue store request = server.respondJson update.toMetric.json) ∨
      (server.respondValue store request).IsRefusal := by
  rcases readBody_cases request with whole | ⟨response, tooLong, -⟩
  · cases read : readPayload Metric.ofJson request request.body with
    | error response =>
        right
        rw [respondValue, whole]
        dsimp only
        rw [read]
        exact isRefusal_of_readPayload_eq_error read
    | ok wanted =>
        rcases respondValue_of_reads whole read server store with
          ⟨update, stored, answered⟩ | refused
        · exact Or.inl ⟨wanted, update, whole, rfl, stored, answered⟩
        · exact Or.inr refused.2
  · right
    rw [respondValue, tooLong]
    exact isRefusal_of_readBody_eq_error tooLong

/-- An update in a path is answered plainly. -/
theorem isPlain_respondPath
    (server : Server) (now : Int64) (state : Service.State) (request : Request)
    (type name raw : String) :
    (server.respondPath now state request type name raw).2.IsPlain := by
  unfold respondPath
  split
  · exact isPlain_text _ _
  · exact isPlain_text _ _
  · exact isPlain_text _ _
  · split
    · exact (isRefusal_refuseUpdate _).isPlain
    next update _ =>
      rcases server.respondUpdate_cases now state request [update.toMetric] (.text 200 "") with
        ⟨-, done⟩ | refused
      · rw [done]
        exact isPlain_text _ _
      · exact refused.isPlain

theorem isPlain_respondText (store : Store) (type name : String) :
    (respondText store type name).IsPlain := by
  unfold respondText
  split
  · exact isPlain_text _ _
  · exact isPlain_text _ _
  · split
    · exact isPlain_text _ _
    · split <;> exact isPlain_text _ _

theorem isPlain_respondPing (server : Server) (state : Service.State) :
    (server.respondPing state).2.IsPlain := by
  unfold respondPing
  split <;> exact isPlain_text _ _

/-! ## Handling a request -/

/-- A route responds with JSON if it is one of the routes that do, and plainly otherwise. -/
theorem respond_cases
    (server : Server) (now : Int64) (state : Service.State) (request : Request) (route : Route) :
    (route.answersJson = true ∧
        ∃ text, (server.respond now state request route).2 = server.respondJson text) ∨
      (server.respond now state request route).2.IsPlain := by
  cases route with
  | page => exact Or.inr (isPlain_page _)
  | ping => exact Or.inr (server.isPlain_respondPing state)
  | update =>
      rcases server.respondMetric_cases now state request with
        ⟨metric, -, -, answered⟩ | refused
      · exact Or.inl ⟨rfl, _, answered⟩
      · exact Or.inr refused.isPlain
  | updates =>
      rcases server.respondBatch_cases now state request with
        ⟨metrics, -, -, answered⟩ | refused
      · exact Or.inl ⟨rfl, _, answered⟩
      · exact Or.inr refused.isPlain
  | updatePath type name raw => exact Or.inr (server.isPlain_respondPath ..)
  | value =>
      rcases server.respondValue_cases state.store request with
        ⟨wanted, update, -, -, -, answered⟩ | refused
      · exact Or.inl ⟨rfl, _, answered⟩
      · exact Or.inr refused.isPlain
  | valuePath type name => exact Or.inr (isPlain_respondText ..)

/-- A request that is posted to a route of JSON is posted to one of its paths. -/
theorem postsForJson_of_answersJson
    {request : Request} {route : Route}
    (found : Route.ofPath? request.path = some route)
    (taken : route.takes request.method = true)
    (json : route.answersJson = true) :
    request.PostsForJson := by
  cases route with
  | update =>
      refine ⟨by simpa [Route.takes, Route.isRead] using taken, ?_⟩
      rcases Route.path_of_update found with path | path <;> simp [path]
  | updates =>
      refine ⟨by simpa [Route.takes, Route.isRead] using taken, ?_⟩
      simp [Route.path_of_updates found]
  | value =>
      refine ⟨by simpa [Route.takes, Route.isRead] using taken, ?_⟩
      rcases Route.path_of_value found with path | path <;> simp [path]
  | page | ping | updatePath _ _ _ | valuePath _ _ => cases json

/-- A request is answered with JSON if it posts to one of the paths for it, and plainly
otherwise. -/
theorem handle_response_cases
    (server : Server) (now : Int64) (state : Service.State) (request : Request) :
    (request.PostsForJson ∧
        ∃ text, (server.handle now state request).2 = server.respondJson text) ∨
      (server.handle now state request).2.IsPlain := by
  have plainTooMuch : tooMuch.IsPlain := isPlain_text _ _
  unfold handle
  cases found : Route.ofPath? request.path with
  | none =>
      right
      dsimp only
      split
      · exact plainTooMuch
      · exact isPlain_bare _
  | some route =>
      dsimp only
      by_cases taken : route.takes request.method = true
      · rw [if_pos taken]
        have plainly {response : Response} (plain : response.IsPlain) :
            (if request.method = "HEAD" then response.withoutBody else response).IsPlain := by
          split <;> exact plain
        by_cases tooLong : announcesTooMuch request = true
        · rw [if_pos tooLong]
          exact Or.inr (plainly plainTooMuch)
        · rw [if_neg tooLong]
          rcases server.respond_cases now state request route with ⟨json, text, answered⟩ | plain
          · have posts := postsForJson_of_answersJson found taken json
            have notHead : request.method ≠ "HEAD" := posts.1 ▸ by decide
            exact Or.inl ⟨posts, text, by rw [if_neg notHead, answered]⟩
          · exact Or.inr (plainly plain)
      · rw [if_neg taken]
        right
        refine isPlain_withAllow ?_ _
        split
        · exact plainTooMuch
        · exact isPlain_bare _

/-! ## Answers of JSON -/

theorem isJson_respondJson (server : Server) (text : String) :
    (server.respondJson text).IsJson := by
  unfold respondJson
  cases server.signer <;> exact ⟨rfl, rfl⟩

theorem body_respondJson (server : Server) (text : String) :
    (server.respondJson text).body = Bytes.ofText text := by
  unfold respondJson
  cases server.signer <;> rfl

/-- An answer of JSON carries the signature of its body when there is a key. -/
theorem signature?_respondJson (server : Server) (text : String) :
    (server.respondJson text).signature? =
      server.signer.map fun signer => signer.sign (server.respondJson text).body := by
  unfold respondJson
  cases server.signer <;> rfl

/-! ## Successes -/

/-- The answer to a post is the one of its route if it is a success. -/
theorem handle_of_post_of_success
    {server : Server} {now : Int64} {state : Service.State} {request : Request} {route : Route}
    (found : Route.ofPath? request.path = some route)
    (posts : request.method = "POST")
    (taken : route.takes "POST" = true)
    (success : (server.handle now state request).2.status = 200) :
    announcesTooMuch request = false ∧
      server.handle now state request = server.respond now state request route := by
  rw [handle_of_post found posts taken] at success ⊢
  by_cases tooLong : announcesTooMuch request = true
  · rw [if_pos tooLong] at success
    cases success
  · exact ⟨Bool.eq_false_iff.mpr tooLong, if_neg tooLong⟩

/-- A post of a metric that succeeds is answered with the JSON of the metric. -/
theorem handle_of_postsMetric_of_success
    {server : Server} {now : Int64} {state : Service.State} {request : Request}
    (posts : request.PostsMetric)
    (success : (server.handle now state request).2.status = 200) :
    ∃ metric, server.readUpdate Metric.ofJson request = .ok metric ∧
      (server.handle now state request).2 = server.respondJson metric.json := by
  obtain ⟨-, handled⟩ := handle_of_post_of_success (Route.ofPath?_of_postsMetric posts)
    posts.1 rfl success
  rw [handled] at success ⊢
  rcases server.respondMetric_cases now state request with ⟨metric, read, -, done⟩ | refused
  · exact ⟨metric, read, done⟩
  · exact absurd success refused.status_ne

/-- A post of metrics that succeeds is answered with the JSON of the metrics. -/
theorem handle_of_postsBatch_of_success
    {server : Server} {now : Int64} {state : Service.State} {request : Request}
    (posts : request.PostsBatch)
    (success : (server.handle now state request).2.status = 200) :
    ∃ metrics, server.readUpdate Metric.listOfJson request = .ok metrics ∧
      (server.handle now state request).2 = server.respondJson (Metric.listJson metrics) := by
  obtain ⟨-, handled⟩ := handle_of_post_of_success (Route.ofPath?_of_postsBatch posts)
    posts.1 rfl success
  rw [handled] at success ⊢
  rcases server.respondBatch_cases now state request with ⟨metrics, read, -, done⟩ | refused
  · exact ⟨metrics, read, done⟩
  · exact absurd success refused.status_ne

/-- A lookup in a body that succeeds is answered with the JSON of what is stored. -/
theorem handle_of_postsLookup_of_success
    {server : Server} {now : Int64} {state : Service.State} {request : Request}
    (posts : request.PostsLookup)
    (success : (server.handle now state request).2.status = 200) :
    ∃ wanted update, request.AsksFor wanted ∧ StoredAs state.store wanted update ∧
      (server.handle now state request).2 = server.respondJson update.toMetric.json := by
  obtain ⟨modest, handled⟩ := handle_of_post_of_success (Route.ofPath?_of_postsLookup posts)
    posts.1 rfl success
  rw [handled] at success ⊢
  rcases server.respondValue_cases state.store request with
    ⟨wanted, update, whole, reads, stored, done⟩ | refused
  · exact ⟨wanted, update, ⟨modest, whole, reads⟩, stored, done⟩
  · exact absurd success refused.status_ne

/-- A lookup in a body succeeds exactly when the store holds what is asked for. -/
theorem status_of_asksFor
    {request : Request} {wanted : Metric}
    (posts : request.PostsLookup)
    (asks : request.AsksFor wanted)
    (server : Server) (now : Int64) (state : Service.State) :
    (server.handle now state request).2.status = 200 ↔
      ∃ update, StoredAs state.store wanted update := by
  rw [handle_of_post (Route.ofPath?_of_postsLookup posts) posts.1 rfl, asks.modest]
  change (server.respondValue state.store request).status = 200 ↔ _
  rcases respondValue_of_reads asks.whole asks.reads server state.store with
    ⟨update, stored, answered⟩ | ⟨missing, refusal⟩
  · rw [answered]
    exact iff_of_true (server.isJson_respondJson _).1 ⟨update, stored⟩
  · exact iff_of_false refusal.status_ne (not_exists.mpr missing)

/-- A lookup in a path succeeds exactly when the store holds what is asked for. -/
theorem status_of_getsValue
    {request : Request} {wanted : Metric}
    (gets : request.GetsValue wanted.type wanted.id)
    (named : wanted.id ≠ "")
    (server : Server) (now : Int64) (state : Service.State) :
    (server.handle now state request).2.status = 200 ↔
      ∃ update, StoredAs state.store wanted update := by
  rw [handle_of_getsValue gets named, answerValue]
  unfold StoredAs
  cases MetricKind.ofName? wanted.type with
  | none => simp [Response.text, Response.withBody]
  | some kind =>
      cases stored : state.store.find? kind wanted.id with
      | none => simp [Response.text, Response.withBody, stored]
      | some update => simp [Response.text, Response.withBody, stored]

/-- Whether an answer is signed, and with what. -/
theorem signature?_handle
    (server : Server) (now : Int64) (state : Service.State) (request : Request) :
    ((server.handle now state request).2.IsJson ∧ request.PostsForJson ∧
        (server.handle now state request).2.signature? = server.signer.map fun signer =>
          signer.sign (server.handle now state request).2.body) ∨
      (¬(server.handle now state request).2.IsJson ∧
        (server.handle now state request).2.signature? = none) := by
  rcases server.handle_response_cases now state request with ⟨posts, text, answered⟩ | plain
  · rw [answered]
    exact Or.inl ⟨server.isJson_respondJson text, posts, server.signature?_respondJson text⟩
  · exact Or.inr ⟨fun json => plain.2 json.2, plain.1⟩

/--
A server with a key signs an answer exactly if it is a success of JSON, with the signature of its
body, and a server without one signs nothing; only posts to the paths for updates and lookups in a
body are answered with JSON.  An update that succeeds is answered with the JSON of what was read
from the request.  A lookup that succeeds is answered with the JSON of what is stored, and lookups
in a body and in a path succeed for the same metrics, if they have a name.
-/
theorem answers_of_json_are_signed
    (server : Server) (now : Int64) (state : Service.State) (request : Request) :
    let response := (server.handle now state request).2
    (server.signer = none -> response.signature? = none) ∧
    (∀ signer, server.signer = some signer ->
      (response.signature?.isSome = true ↔ response.IsJson) ∧
      ∀ signature, response.signature? = some signature ->
        signer.verifies response.body signature = true) ∧
    (response.IsJson -> request.PostsForJson) ∧
    (request.PostsMetric -> response.status = 200 -> response.IsJson ∧
      ∃ metric, server.readUpdate Metric.ofJson request = .ok metric ∧
        response.body = Bytes.ofText metric.json) ∧
    (request.PostsBatch -> response.status = 200 -> response.IsJson ∧
      ∃ metrics, server.readUpdate Metric.listOfJson request = .ok metrics ∧
        response.body = Bytes.ofText (Metric.listJson metrics)) ∧
    (request.PostsLookup ->
      (response.status = 200 -> response.IsJson ∧
        ∃ wanted update, request.AsksFor wanted ∧ StoredAs state.store wanted update ∧
          response.body = Bytes.ofText update.toMetric.json) ∧
      ∀ wanted, request.AsksFor wanted -> wanted.id ≠ "" ->
        (getValue wanted.type wanted.id).GetsValue wanted.type wanted.id ∧
        ∀ (later : Int64) (lookup : Request), lookup.GetsValue wanted.type wanted.id ->
          (response.status = 200 ↔ (server.handle later state lookup).2.status = 200)) := by
  intro response
  have answers (text : String) (answered : response = server.respondJson text) :
      response.IsJson ∧ response.body = Bytes.ofText text :=
    answered ▸ ⟨server.isJson_respondJson text, server.body_respondJson text⟩
  refine ⟨?unkeyed, ?keyed, ?posts, ?metric, ?batch, ?lookup⟩
  case unkeyed =>
    intro unkeyed
    rcases server.signature?_handle now state request with ⟨-, -, signed⟩ | ⟨-, unsigned⟩
    · rw [unkeyed] at signed
      exact signed
    · exact unsigned
  case keyed =>
    intro signer keyed
    rcases server.signature?_handle now state request with ⟨json, -, signed⟩ | ⟨noJson, unsigned⟩
    · rw [keyed] at signed
      have isSigned : response.signature? = some (signer.sign response.body) := signed
      rw [isSigned]
      refine ⟨iff_of_true rfl json, ?_⟩
      rintro signature ⟨⟩
      exact signer.verifies_sign response.body
    · have isUnsigned : response.signature? = none := unsigned
      rw [isUnsigned]
      exact ⟨iff_of_false Bool.false_ne_true noJson, fun signature same => by cases same⟩
  case posts =>
    intro json
    rcases server.signature?_handle now state request with ⟨-, posts, -⟩ | ⟨noJson, -⟩
    · exact posts
    · exact absurd json noJson
  case metric =>
    intro posts success
    obtain ⟨metric, read, answered⟩ := handle_of_postsMetric_of_success posts success
    obtain ⟨json, body⟩ := answers _ answered
    exact ⟨json, metric, read, body⟩
  case batch =>
    intro posts success
    obtain ⟨metrics, read, answered⟩ := handle_of_postsBatch_of_success posts success
    obtain ⟨json, body⟩ := answers _ answered
    exact ⟨json, metrics, read, body⟩
  case lookup =>
    intro posts
    constructor
    · intro success
      obtain ⟨wanted, update, asks, stored, answered⟩ :=
        handle_of_postsLookup_of_success posts success
      obtain ⟨json, body⟩ := answers _ answered
      exact ⟨json, wanted, update, asks, stored, body⟩
    · intro wanted asks named
      refine ⟨getsValue_getValue wanted.type wanted.id, fun later lookup gets => ?_⟩
      exact (status_of_asksFor posts asks server now state).trans
        (status_of_getsValue gets named server later state).symm

/-- The gauge `a/b` is posted in a batch and looked up in a body; both answers are signed, and the
path `a%2Fb` finds it too. -/
theorem update_and_lookup_of_slash_are_signed :
    let signer : Signer := ⟨[107], by decide⟩
    let server : Server := { service := {}, signer := some signer }
    let batch := Bytes.ofText "[[\"a/b\",\"gauge\",null,0]]"
    let update : Request :=
      { method := "POST", target := "/updates/", body := batch
        headers := [("hashsha256", Bytes.ofText (signer.sign batch))] }
    let posted := (server.handle 0 {} update).2
    let state : Service.State := { store := Store.empty.setGauge "a/b" (.ofMagnitude false 0) }
    let request : Request :=
      { method := "POST", target := "/value", body := Bytes.ofText "[\"a/b\",\"gauge\"]" }
    let response := (server.handle 0 state request).2
    (posted.IsJson ∧ posted.body = Bytes.ofText
        (Metric.listJson [⟨"a/b", "gauge", none, some (.ofMagnitude false 0)⟩]) ∧
      ∃ signature, posted.signature? = some signature ∧
        signer.verifies posted.body signature = true) ∧
    (response.IsJson ∧
      ∃ signature, response.signature? = some signature ∧
        signer.verifies response.body signature = true) ∧
    (server.handle 0 state { method := "GET", target := "/value/gauge/a%2Fb" }).2.status = 200 := by
  intro signer server batch update posted state request response
  have isSigned (state : Service.State) (request : Request)
      (json : (server.handle 0 state request).2.IsJson) :
      ∃ signature, (server.handle 0 state request).2.signature? = some signature ∧
        signer.verifies (server.handle 0 state request).2.body signature = true := by
    obtain ⟨-, keyed, -⟩ := answers_of_json_are_signed server 0 state request
    obtain ⟨signature, carried⟩ := Option.isSome_iff_exists.mp ((keyed signer rfl).1.mpr json)
    exact ⟨signature, carried, (keyed signer rfl).2 signature carried⟩
  refine ⟨?update, ?lookup⟩
  case update =>
    let metrics : List Metric := [⟨"a/b", "gauge", none, some (.ofMagnitude false 0)⟩]
    have posts : update.PostsBatch := ⟨rfl, by decide +kernel⟩
    have decoded : (Metric.listOfJson batch).toOption = some metrics := by decide +kernel
    have whole : update.readBody = .ok batch := if_neg (by decide +kernel)
    have header : update.header? "hashsha256" = some (signer.sign batch) := by
      rw [Request.header?, findHeader?, List.find?_cons_of_pos (by decide)]
      exact signer.valueText?_sign batch
    have signed : server.IsSigned signer update batch :=
      ⟨Or.inr ⟨Or.inl rfl, rfl⟩, signer.sign batch, header, signer.verifies_sign batch⟩
    have read : server.readUpdate Metric.listOfJson update = .ok metrics := by
      rw [readUpdate_of_isSigned rfl whole signed, readPayload_eq_ok_iff]
      exact ⟨batch, hasContent_of_not_isZipped (by decide +kernel) _, eq_ok_of_toOption decoded⟩
    have modest : announcesTooMuch update = false := by decide +kernel
    have success : (server.handle 0 {} update).2.status = 200 := by
      rw [handle_of_post (Route.ofPath?_of_postsBatch posts) posts.1 rfl, modest,
        if_neg Bool.false_ne_true, respond, respondBatch, read]
      exact (server.isJson_respondJson _).1
    obtain ⟨-, -, -, -, answers, -⟩ := answers_of_json_are_signed server 0 {} update
    obtain ⟨json, found, reads, body⟩ := answers posts success
    rw [read] at reads
    cases reads
    exact ⟨json, body, isSigned _ _ json⟩
  case lookup =>
    let wanted : Metric := { id := "a/b", type := "gauge", delta := none, value := none }
    have posts : request.PostsLookup := ⟨rfl, Or.inl (by decide +kernel)⟩
    have decoded : (Metric.ofJson request.body).toOption = some wanted := by decide +kernel
    have whole : request.readBody = .ok request.body := by
      rw [Request.readBody]
      exact if_neg (by decide +kernel)
    have asks : request.AsksFor wanted :=
      ⟨by decide +kernel, whole, (readPayload_eq_ok_iff ..).mpr
        ⟨request.body, hasContent_of_not_isZipped (by decide +kernel) _,
          eq_ok_of_toOption decoded⟩⟩
    have stored : StoredAs state.store wanted (.gauge "a/b" (.ofMagnitude false 0)) := by
      refine ⟨.gauge, by decide, ?_⟩
      rw [Store.find?, Store.gauge?_setGauge, if_pos rfl]
      rfl
    have gets : ({ method := "GET", target := "/value/gauge/a%2Fb" } : Request).GetsValue
        "gauge" "a/b" :=
      ⟨rfl, ⟨"gauge", "a%2Fb", by decide +kernel, .of_all (by decide) (by decide +kernel),
        .of_all (by decide) (by decide +kernel)⟩, by decide +kernel⟩
    have success : response.status = 200 :=
      (status_of_asksFor posts asks server 0 state).mpr ⟨_, stored⟩
    obtain ⟨-, -, -, -, -, lookup⟩ := answers_of_json_are_signed server 0 state request
    have json := ((lookup posts).1 success).1
    exact ⟨⟨json, isSigned _ _ json⟩,
      (((lookup posts).2 wanted asks (by decide)).2 0 _ gets).mp success⟩

end Server
end Http
end Telemetry
