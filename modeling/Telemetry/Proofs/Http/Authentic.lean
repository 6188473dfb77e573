import Telemetry.Http.Server

/-!
# Only authentic requests change a server that checks signatures

A request with metrics in its body is authentic when its signature covers the
payload, and the payload can be read as what the route takes.  A server with a
key changes nothing that is kept or sent on for any other request, apart from
an update that is spelled in the path, which carries no signature.  In a run of
requests the ones without a right signature could as well be left out.
-/

namespace Telemetry
namespace Http

namespace Request

/-- The request posts a metric in its body. -/
def PostsMetric (request : Request) : Prop :=
  request.method = "POST" ∧
    (request.path = "/update".toList ∨ request.path = "/update/".toList)

/-- The request posts a list of metrics in its body. -/
def PostsBatch (request : Request) : Prop :=
  request.method = "POST" ∧ request.path = "/updates/".toList

/-- The request posts an update that is spelled in three segments of its path. -/
def PostsSegments (request : Request) (update : Update) : Prop :=
  request.method = "POST" ∧
    ∃ type name raw : String,
      request.path = "/update/".toList ++ type.toList ++ '/' :: name.toList ++ '/' :: raw.toList ∧
      '/' ∉ type.toList ∧ '/' ∉ name.toList ∧ '/' ∉ raw.toList ∧
      ∃ typeText nameText rawText : String,
        segmentText? type = some typeText ∧ segmentText? name = some nameText ∧
        segmentText? raw = some rawText ∧
        Update.parse typeText nameText rawText = .ok update

/-- The request says `true` about being sealed, in any letter case. -/
def ClaimsSealed (request : Request) : Prop :=
  ∃ text, request.header? "x-encrypted" = some text ∧ sameIgnoringCase "true" text = true

/-- The content of a payload: it is unzipped when the request says that it is zipped. -/
def HasContent (request : Request) (payload content : Bytes) : Prop :=
  if request.isZipped then
    Compression.Gzip.decode Compression.Gzip.payloadLimit payload = .ok content
  else content = payload

end Request

namespace Server

/-- The payload of a request: what a sealed body opens to if there is a key to open it with,
and the body as it came otherwise. -/
def HasPayload (server : Server) (request : Request) (payload : Bytes) : Prop :=
  (∃ key, server.opener = some key ∧ request.ClaimsSealed ∧
      key.openPayload request.body = .ok payload) ∨
    ((server.opener = none ∨ ¬request.ClaimsSealed) ∧ payload = request.body)

/-- The first signature of the request is the one of its payload. -/
def IsSigned (server : Server) (signer : Signer) (request : Request) (payload : Bytes) : Prop :=
  server.HasPayload request payload ∧
    ∃ signature, request.header? "hashsha256" = some signature ∧
      signer.verifies payload signature = true

/-- The request is signed, and its payload can be read. -/
def IsAuthentic (server : Server) (signer : Signer) (read : Bytes -> Except Json.Fault α)
    (request : Request) : Prop :=
  ∃ payload, server.IsSigned signer request payload ∧
    ∃ content, request.HasContent payload content ∧ ∃ value, read content = .ok value

/-- Handles requests in order, each at its time. -/
def serve (server : Server) (state : Service.State) :
    List (Int64 × Request) -> Service.State × List Response
  | [] => (state, [])
  | (now, request) :: rest =>
      let (changed, response) := server.handle now state request
      let (final, responses) := server.serve changed rest
      (final, response :: responses)

end Server

/-! ## Paths of the routes -/

/-- A piece of a text has no separator. -/
theorem separator_notMem_of_mem_pieces
    {separator : Char} {text piece : List Char}
    (present : piece ∈ Text.pieces separator text) :
    separator ∉ piece := by
  induction text generalizing piece with
  | nil =>
      simp only [Text.pieces, List.mem_singleton] at present
      simp [present]
  | cons letter rest inductionHypothesis =>
      rw [Text.pieces] at present
      split at present
      case isTrue same =>
          rcases List.mem_cons.mp present with rfl | later
          · simp
          · exact inductionHypothesis later
      case isFalse other =>
          cases cut : Text.pieces separator rest with
          | nil => exact absurd cut (Text.pieces_ne_nil _ _)
          | cons first others =>
              rw [cut] at present
              rcases List.mem_cons.mp present with rfl | later
              · have clean : separator ∉ first :=
                  inductionHypothesis (cut ▸ List.mem_cons_self)
                simp [clean, Ne.symm other]
              · exact inductionHypothesis (cut ▸ List.mem_cons_of_mem _ later)

namespace Route

/-- The segments of a path, joined by slashes, are the path. -/
theorem intercalate_segments
    {path : List Char} {segments : List String}
    (cut : (Text.pieces '/' path).map String.ofList = segments) :
    path = List.intercalate ['/'] (segments.map String.toList) := by
  rw [← cut, List.map_map]
  simp [Function.comp_def, Text.intercalate_pieces]

/-- A segment of a path has no slash. -/
theorem slash_notMem_segment
    {path : List Char} {segments : List String} {segment : String}
    (cut : (Text.pieces '/' path).map String.ofList = segments)
    (present : segment ∈ segments) :
    '/' ∉ segment.toList := by
  rw [← cut] at present
  obtain ⟨piece, isPiece, rfl⟩ := List.mem_map.mp present
  simpa using separator_notMem_of_mem_pieces isPiece

theorem path_of_update
    {path : List Char}
    (found : ofPath? path = some .update) :
    path = "/update".toList ∨ path = "/update/".toList := by
  unfold ofPath? at found
  split at found
  case h_3 cut => exact Or.inl (intercalate_segments cut)
  case h_4 cut => exact Or.inr (intercalate_segments cut)
  all_goals simp at found

theorem path_of_updates
    {path : List Char}
    (found : ofPath? path = some .updates) :
    path = "/updates/".toList := by
  unfold ofPath? at found
  split at found
  case h_5 cut => exact intercalate_segments cut
  all_goals simp at found

theorem path_of_updatePath
    {path : List Char} {type name raw : String}
    (found : ofPath? path = some (.updatePath type name raw)) :
    path = "/update/".toList ++ type.toList ++ '/' :: name.toList ++ '/' :: raw.toList ∧
      '/' ∉ type.toList ∧ '/' ∉ name.toList ∧ '/' ∉ raw.toList := by
  unfold ofPath? at found
  split at found
  case h_8 cut => 
    split at found
    · simp at found
    · cases found
      refine ⟨?_, ?_, ?_, ?_⟩
      · have joined := intercalate_segments cut
        simpa [List.intercalate, List.intersperse] using joined
      all_goals exact slash_notMem_segment cut (by simp)
  all_goals simp at found

/-- A request that posts a metric goes to the route for one metric. -/
theorem ofPath?_of_postsMetric
    {request : Request}
    (posts : request.PostsMetric) :
    ofPath? request.path = some .update := by
  rcases posts.2 with path | path <;> rw [path] <;> decide

/-- A request that posts a list of metrics goes to the route for lists. -/
theorem ofPath?_of_postsBatch
    {request : Request}
    (posts : request.PostsBatch) :
    ofPath? request.path = some .updates := by
  rw [posts.2]
  decide

end Route

/-! ## Reading a body -/

theorem Request.isSealed_iff (request : Request) :
    request.isSealed = true ↔ request.ClaimsSealed := by
  simp [isSealed, ClaimsSealed, Option.any_eq_true]

namespace Server

/-- The response blames the request. -/
def BlamesRequest (response : Response) : Prop :=
  400 ≤ response.status ∧ response.status < 500

theorem blamesRequest_text
    {status : Nat} {message : String}
    (atLeast : 400 ≤ status) (less : status < 500) :
    BlamesRequest (.text status message) :=
  ⟨atLeast, less⟩

/-- A body is refused for its length, or it is the body of the request. -/
theorem readBody_cases (request : Request) :
    request.readBody = .ok request.body ∨
      ∃ response, request.readBody = .error response ∧ BlamesRequest response := by
  unfold Request.readBody
  dsimp only
  split
  · exact Or.inr ⟨_, rfl, blamesRequest_text (by decide) (by decide)⟩
  · exact Or.inl rfl

/-- Opening the body of a request gives its payload. -/
theorem openBody_eq_ok_iff
    (server : Server) (request : Request) (payload : Bytes) :
    openBody server.opener request request.body = .ok payload ↔
      server.HasPayload request payload := by
  unfold openBody HasPayload
  cases opener : server.opener with
  | none => simp [eq_comm]
  | some key =>
      dsimp only
      by_cases claims : request.ClaimsSealed
      · rw [if_pos (request.isSealed_iff.mpr claims)]
        cases opens : key.openPayload request.body <;> simp [claims, opens]
      · rw [if_neg (mt request.isSealed_iff.mp claims)]
        simp [claims, eq_comm]

theorem blamesRequest_of_openBody_eq_error
    {opener : Option Sealing.PrivateKey} {request : Request} {body : Bytes} {response : Response}
    (refused : openBody opener request body = .error response) :
    BlamesRequest response := by
  unfold openBody at refused
  split at refused
  · cases refused
  · split at refused
    · split at refused
      · cases refused
      · cases refused
        exact blamesRequest_text (by decide) (by decide)
    · cases refused

/-- A payload passes when the first signature of the request is the one of the payload. -/
theorem checkSignature_eq_ok_iff
    (signer : Signer) (request : Request) (payload checked : Bytes) :
    checkSignature (some signer) request payload = .ok checked ↔
      (∃ signature, request.header? "hashsha256" = some signature ∧
        signer.verifies payload signature = true) ∧ checked = payload := by
  unfold checkSignature
  cases request.header? "hashsha256" with
  | none => simp
  | some signature =>
      by_cases verified : signer.verifies payload signature = true
      · simpa [verified] using eq_comm
      · simp [verified]

theorem blamesRequest_of_checkSignature_eq_error
    {signer : Option Signer} {request : Request} {payload : Bytes} {response : Response}
    (refused : checkSignature signer request payload = .error response) :
    BlamesRequest response := by
  unfold checkSignature at refused
  split at refused
  · cases refused
  · split at refused
    · cases refused
      exact blamesRequest_text (by decide) (by decide)
    · split at refused
      · cases refused
      · cases refused
        exact blamesRequest_text (by decide) (by decide)

/-- Unzipping a payload gives its content. -/
theorem unzip_eq_ok_iff
    (request : Request) (payload content : Bytes) :
    unzip request payload = .ok content ↔ request.HasContent payload content := by
  unfold unzip Request.HasContent
  by_cases zipped : request.isZipped = true
  · rw [if_pos zipped, if_pos zipped]
    generalize Compression.Gzip.decode Compression.Gzip.payloadLimit payload = decoded
    split <;> simp
  · rw [if_neg zipped, if_neg zipped]
    simp [eq_comm]

/-- A payload that is not zipped is its own content. -/
theorem hasContent_of_not_isZipped
    {request : Request}
    (plain : request.isZipped = false)
    (payload : Bytes) :
    request.HasContent payload payload := by
  rw [Request.HasContent, plain, if_neg Bool.false_ne_true]

/-- An answer that has a value is that value. -/
theorem eq_ok_of_toOption
    {answer : Except ε α} {value : α}
    (found : answer.toOption = some value) :
    answer = .ok value := by
  cases answer with
  | error fault => cases found
  | ok other => exact congrArg _ (Option.some.inj found)

/-- What is read from a payload is read from its content. -/
theorem readPayload_eq_ok_iff
    (read : Bytes -> Except Json.Fault α) (request : Request) (payload : Bytes) (value : α) :
    readPayload read request payload = .ok value ↔
      ∃ content, request.HasContent payload content ∧ read content = .ok value := by
  unfold readPayload
  constructor
  · intro accepted
    split at accepted
    · cases accepted
    next content unzipped =>
      refine ⟨content, (unzip_eq_ok_iff ..).mp unzipped, ?_⟩
      split at accepted
      next found readContent =>
        cases accepted
        exact readContent
      next => cases accepted
  · rintro ⟨content, hasContent, readContent⟩
    rw [(unzip_eq_ok_iff ..).mpr hasContent]
    dsimp only
    rw [readContent]

/-- A server with a key reads the payload of a body if it is signed, and nothing otherwise. -/
theorem readUpdate_cases
    {server : Server} {signer : Signer}
    (keyed : server.signer = some signer)
    (read : Bytes -> Except Json.Fault α) (request : Request) :
    (∃ payload, server.IsSigned signer request payload ∧
        server.readUpdate read request = readPayload read request payload) ∨
      ∃ response, server.readUpdate read request = .error response ∧
        BlamesRequest response := by
  unfold readUpdate
  rcases readBody_cases request with accepted | ⟨response, refused, blames⟩
  · rw [accepted]
    dsimp only
    cases opened : openBody server.opener request request.body with
    | error response => exact Or.inr ⟨response, rfl, blamesRequest_of_openBody_eq_error opened⟩
    | ok payload =>
        rw [keyed]
        dsimp only
        cases checked : checkSignature (some signer) request payload with
        | error response =>
            exact Or.inr ⟨response, rfl, blamesRequest_of_checkSignature_eq_error checked⟩
        | ok authentic =>
            obtain ⟨signed, rfl⟩ := (checkSignature_eq_ok_iff ..).mp checked
            exact Or.inl ⟨authentic, ⟨(openBody_eq_ok_iff ..).mp opened, signed⟩, rfl⟩
  · rw [refused]
    exact Or.inr ⟨response, rfl, blames⟩

/-- A server with a key reads the signed payload of a body that is not too long. -/
theorem readUpdate_of_isSigned
    {server : Server} {signer : Signer} {request : Request} {payload : Bytes}
    (keyed : server.signer = some signer)
    (whole : request.readBody = .ok request.body)
    (signed : server.IsSigned signer request payload)
    (read : Bytes -> Except Json.Fault α) :
    server.readUpdate read request = readPayload read request payload := by
  unfold readUpdate
  rw [whole]
  dsimp only
  rw [(openBody_eq_ok_iff ..).mpr signed.1]
  dsimp only
  rw [keyed, (checkSignature_eq_ok_iff ..).mpr ⟨signed.2, rfl⟩]

/-- What a server with a key reads from a body is authentic. -/
theorem isAuthentic_of_readUpdate_eq_ok
    {server : Server} {signer : Signer} {read : Bytes -> Except Json.Fault α}
    {request : Request} {value : α}
    (keyed : server.signer = some signer)
    (accepted : server.readUpdate read request = .ok value) :
    server.IsAuthentic signer read request := by
  rcases readUpdate_cases keyed read request with ⟨payload, signed, asPayload⟩ | ⟨_, refused, _⟩
  · rw [asPayload] at accepted
    obtain ⟨content, hasContent, readContent⟩ := (readPayload_eq_ok_iff ..).mp accepted
    exact ⟨payload, signed, content, hasContent, value, readContent⟩
  · rw [refused] at accepted
    cases accepted

/-! ## Handling a request -/

/-- A state differs from another at most in how often the database was asked for. -/
def Unchanged (before after : Service.State) : Prop :=
  after.store = before.store ∧ after.world = before.world ∧ after.synced = before.synced

/-- A request changes nothing, or what it changes is what its route does. -/
theorem handle_state_cases
    (server : Server) (now : Int64) (state : Service.State) (request : Request) :
    (server.handle now state request).1 = state ∨
      ∃ route, Route.ofPath? request.path = some route ∧ route.takes request.method = true ∧
        (server.handle now state request).1 = (server.respond now state request route).1 := by
  unfold handle
  cases found : Route.ofPath? request.path with
  | none => exact Or.inl rfl
  | some route =>
      dsimp only
      by_cases taken : route.takes request.method = true
      · rw [if_pos taken]
        by_cases tooLong : announcesTooMuch request = true
        · exact Or.inl (by simp [tooLong])
        · exact Or.inr ⟨route, rfl, taken, by simp [tooLong]⟩
      · rw [if_neg taken]
        exact Or.inl rfl

/-- A request that a route takes gets what the route responds, unless it announces too much. -/
theorem handle_of_takes
    {server : Server} {request : Request} {route : Route}
    (found : Route.ofPath? request.path = some route)
    (taken : route.takes request.method = true)
    (notHead : request.method ≠ "HEAD")
    (now : Int64) (state : Service.State) :
    server.handle now state request =
      if announcesTooMuch request then (state, tooMuch)
      else server.respond now state request route := by
  unfold handle
  rw [found]
  dsimp only
  rw [if_pos taken, if_neg notHead]

/-- A request that posts to a route gets what the route responds, unless it announces too much. -/
theorem handle_of_post
    {server : Server} {request : Request} {route : Route}
    (found : Route.ofPath? request.path = some route)
    (posts : request.method = "POST")
    (taken : route.takes "POST" = true)
    (now : Int64) (state : Service.State) :
    server.handle now state request =
      if announcesTooMuch request then (state, tooMuch)
      else server.respond now state request route :=
  handle_of_takes found (posts ▸ taken) (posts ▸ by decide) now state

theorem unchanged_respondPing (server : Server) (state : Service.State) :
    Unchanged state (server.respondPing state).1 := by
  unfold respondPing Service.ping
  cases server.service.repository with
  | none => exact ⟨rfl, rfl, rfl⟩
  | some repository =>
      cases answer : repository.ping state.pings <;> simp [answer, Unchanged]

/-- A metric in a body changes nothing unless it is authentic. -/
theorem respondMetric_state_cases
    {server : Server} {signer : Signer}
    (keyed : server.signer = some signer)
    (now : Int64) (state : Service.State) (request : Request) :
    (server.respondMetric now state request).1 = state ∨
      server.IsAuthentic signer Metric.ofJson request := by
  unfold respondMetric
  split
  · exact Or.inl rfl
  next metric accepted => exact Or.inr (isAuthentic_of_readUpdate_eq_ok keyed accepted)

/-- A list of metrics in a body changes nothing unless it is authentic. -/
theorem respondBatch_state_cases
    {server : Server} {signer : Signer}
    (keyed : server.signer = some signer)
    (now : Int64) (state : Service.State) (request : Request) :
    (server.respondBatch now state request).1 = state ∨
      server.IsAuthentic signer Metric.listOfJson request := by
  unfold respondBatch
  split
  · exact Or.inl rfl
  next metrics accepted => exact Or.inr (isAuthentic_of_readUpdate_eq_ok keyed accepted)

/-- The segments of a path change nothing unless they spell an update. -/
theorem respondPath_state_cases
    (server : Server) (now : Int64) (state : Service.State) (request : Request)
    (type name raw : String) :
    (server.respondPath now state request type name raw).1 = state ∨
      ∃ typeText nameText rawText update,
        segmentText? type = some typeText ∧ segmentText? name = some nameText ∧
        segmentText? raw = some rawText ∧
        Update.parse typeText nameText rawText = .ok update := by
  unfold respondPath
  split
  · exact Or.inl rfl
  · exact Or.inl rfl
  · exact Or.inl rfl
  next typeText nameText rawText typeFound nameFound rawFound =>
    split
    · exact Or.inl rfl
    next update parsed =>
      exact Or.inr ⟨typeText, nameText, rawText, update, typeFound, nameFound, rawFound, parsed⟩

/-- A request changes something only if it is authentic or spells an update in its path. -/
theorem handle_unchanged_or_authentic
    {server : Server} {signer : Signer}
    (keyed : server.signer = some signer)
    (now : Int64) (state : Service.State) (request : Request) :
    Unchanged state (server.handle now state request).1 ∨
      (request.PostsMetric ∧ server.IsAuthentic signer Metric.ofJson request) ∨
      (request.PostsBatch ∧ server.IsAuthentic signer Metric.listOfJson request) ∨
      ∃ update, request.PostsSegments update := by
  rcases server.handle_state_cases now state request with same | ⟨route, found, taken, changed⟩
  · exact Or.inl (by simp [same, Unchanged])
  · rw [changed]
    have posted : route.isRead = false -> request.method = "POST" := by
      intro written
      simpa [Route.takes, written] using taken
    cases route with
    | page => exact Or.inl ⟨rfl, rfl, rfl⟩
    | ping => exact Or.inl (server.unchanged_respondPing state)
    | update =>
        rcases respondMetric_state_cases keyed now state request with same | authentic
        · exact Or.inl (by simp [respond, same, Unchanged])
        · exact Or.inr (Or.inl ⟨⟨posted rfl, Route.path_of_update found⟩, authentic⟩)
    | updates =>
        rcases respondBatch_state_cases keyed now state request with same | authentic
        · exact Or.inl (by simp [respond, same, Unchanged])
        · exact Or.inr (Or.inr (Or.inl ⟨⟨posted rfl, Route.path_of_updates found⟩, authentic⟩))
    | updatePath type name raw =>
        rcases server.respondPath_state_cases now state request type name raw with
          same | ⟨typeText, nameText, rawText, update, texts⟩
        · exact Or.inl (by simp [respond, same, Unchanged])
        · obtain ⟨path, typeClean, nameClean, rawClean⟩ := Route.path_of_updatePath found
          exact Or.inr (Or.inr (Or.inr ⟨update, posted rfl, type, name, raw, path,
            typeClean, nameClean, rawClean, typeText, nameText, rawText, texts⟩))
    | value => exact Or.inl ⟨rfl, rfl, rfl⟩
    | valuePath type name => exact Or.inl ⟨rfl, rfl, rfl⟩

/-- Metrics in a body without the signature of its payload change nothing, and the request is
blamed. -/
theorem handle_of_unsigned
    {server : Server} {signer : Signer} {request : Request}
    (keyed : server.signer = some signer)
    (posts : request.PostsMetric ∨ request.PostsBatch)
    (unsigned : ∀ payload, ¬server.IsSigned signer request payload)
    (now : Int64) (state : Service.State) :
    ∃ response, server.handle now state request = (state, response) ∧ BlamesRequest response := by
  have refused : ∀ {α : Type} (read : Bytes -> Except Json.Fault α),
      ∃ response, server.readUpdate read request = .error response ∧ BlamesRequest response := by
    intro α read
    rcases readUpdate_cases keyed read request with ⟨payload, signed, _⟩ | refused
    · exact absurd signed (unsigned payload)
    · exact refused
  have blamesTooMuch : BlamesRequest tooMuch := blamesRequest_text (by decide) (by decide)
  rcases posts with metric | batch
  · rw [handle_of_post (Route.ofPath?_of_postsMetric metric) metric.1 (by decide)]
    split
    · exact ⟨_, rfl, blamesTooMuch⟩
    · obtain ⟨response, reading, blames⟩ := refused Metric.ofJson
      exact ⟨response, by simp [respond, respondMetric, reading], blames⟩
  · rw [handle_of_post (Route.ofPath?_of_postsBatch batch) batch.1 (by decide)]
    split
    · exact ⟨_, rfl, blamesTooMuch⟩
    · obtain ⟨response, reading, blames⟩ := refused Metric.listOfJson
      exact ⟨response, by simp [respond, respondBatch, reading], blames⟩

/-! ## Runs of requests -/

@[simp] theorem length_serve
    (server : Server) (state : Service.State) (requests : List (Int64 × Request)) :
    (server.serve state requests).2.length = requests.length := by
  induction requests generalizing state with
  | nil => rfl
  | cons first rest inductionHypothesis => simp [serve, inductionHypothesis]

/-- A run of requests is the run of the first ones and then the run of the others. -/
theorem serve_append
    (server : Server) (state : Service.State) (early late : List (Int64 × Request)) :
    server.serve state (early ++ late) =
      ((server.serve (server.serve state early).1 late).1,
        (server.serve state early).2 ++ (server.serve (server.serve state early).1 late).2) := by
  induction early generalizing state with
  | nil => rfl
  | cons first rest inductionHypothesis => simp [serve, inductionHypothesis]

/-- Inserting after a list puts the element between the list and what follows. -/
theorem insertIdx_length_append (early late : List α) (inserted : α) :
    (early ++ late).insertIdx early.length inserted = early ++ inserted :: late := by
  induction early with
  | nil => rfl
  | cons first rest inductionHypothesis => simp [inductionHypothesis]

/--
With a key, a request changes the store, the files and addresses, or what the repository was
given only if it posts authentic metrics or spells an update in its path.  In a run of requests,
metrics that are posted without the signature of their payload are refused, and all else goes on
as if they had not been there.
-/
theorem unsigned_requests_change_nothing
    (server : Server) (signer : Signer)
    (keyed : server.signer = some signer) :
    (∀ now state request,
      Unchanged state (server.handle now state request).1 ∨
        (request.PostsMetric ∧ server.IsAuthentic signer Metric.ofJson request) ∨
        (request.PostsBatch ∧ server.IsAuthentic signer Metric.listOfJson request) ∨
        ∃ update, request.PostsSegments update) ∧
      ∀ state before now request after,
        (request.PostsMetric ∨ request.PostsBatch) ->
        (∀ payload, ¬server.IsSigned signer request payload) ->
        ∃ response, BlamesRequest response ∧
          server.serve state (before ++ (now, request) :: after) =
            ((server.serve state (before ++ after)).1,
              (server.serve state (before ++ after)).2.insertIdx before.length response) := by
  refine ⟨handle_unchanged_or_authentic keyed, ?_⟩
  intro state before now request after posts unsigned
  obtain ⟨response, handled, blames⟩ := handle_of_unsigned keyed posts unsigned now
    (server.serve state before).1
  refine ⟨response, blames, ?_⟩
  rw [serve_append, serve_append, ← server.length_serve state before, insertIdx_length_append]
  simp [serve, handled]

/-- A metric that is posted with a signature in capital letters is refused between two requests
for the page. -/
theorem forged_metric_changes_nothing :
    let signer : Signer := ⟨[107], by decide⟩
    let server : Server := { service := {}, signer := some signer }
    let page : Int64 × Request := (0, { method := "GET", target := "/" })
    let forged : Request :=
      { method := "POST", target := "/update"
        headers := [("HashSHA256", Bytes.ofText "AB")]
        body := Bytes.ofText "[\"hits\",\"counter\",1]" }
    server.signer = some signer ∧ (forged.PostsMetric ∨ forged.PostsBatch) ∧
      (∀ payload, ¬server.IsSigned signer forged payload) ∧
      ∃ response, BlamesRequest response ∧
        server.serve {} [page, (0, forged), page] =
          ((server.serve {} [page, page]).1,
            (server.serve {} [page, page]).2.insertIdx 1 response) := by
  intro signer server page forged
  have posts : forged.PostsMetric := ⟨rfl, Or.inl (by decide +kernel)⟩
  have unsigned : ∀ payload, ¬server.IsSigned signer forged payload := by
    rintro payload ⟨hasPayload, signature, given, verified⟩
    have isBody : payload = forged.body := by
      rcases hasPayload with ⟨key, opener, _⟩ | ⟨_, isBody⟩
      · cases opener
      · exact isBody
    have isForged : forged.header? "hashsha256" = some "AB" := by decide +kernel
    rw [isForged] at given
    cases given
    rw [isBody] at verified
    have refused : signer.verifies forged.body "AB" = false := by decide +kernel
    rw [refused] at verified
    cases verified
  exact ⟨rfl, Or.inl posts, unsigned,
    (unsigned_requests_change_nothing server signer rfl).2 {} [page] 0 forged [page]
      (Or.inl posts) unsigned⟩

end Server
end Http
end Telemetry
