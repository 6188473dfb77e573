import Telemetry.Proofs.Http.Segments
import Telemetry.Proofs.Number.PlainText
import Telemetry.Proofs.Service.Update
import Telemetry.Proofs.Store.History

/-!
# A value that is read as text can be posted back

The text of a value has no exponent and is parsed back to that value.  So a
gauge that is read and posted back keeps its value, and the store keeps all
others; only the spelling of "not a number" may change.
-/

namespace Telemetry

namespace Binary64

theorem SameBits.refl (value : Binary64) : value.SameBits value := Or.inl rfl

theorem SameBits.eq
    {left right : Binary64}
    (same : left.SameBits right)
    (isNumber : right.isNaN = false) :
    left = right := by
  rcases same with equal | ⟨-, isNaN⟩
  · exact equal
  · rw [isNumber] at isNaN
    cases isNaN

/-- No word for a number is empty. -/
theorem plainText_ne_empty (value : Binary64) : value.plainText ≠ "" := by
  intro empty
  obtain ⟨back, reads, -⟩ := value.exists_read?_plainText
  rw [empty] at reads
  have unread : read? "" = none := by decide
  rw [unread] at reads
  cases reads

/-- A plain text has no exponent. -/
theorem no_exponent_of_mem_plainText
    {value : Binary64} {letter : Char}
    (present : letter ∈ value.plainText.toList) :
    letter ≠ 'e' ∧ letter ≠ 'E' := by
  have plain := isPlainLetter_of_mem_plainText present
  constructor
  · rintro rfl
    exact absurd plain (by decide)
  · rintro rfl
    exact absurd plain (by decide)

end Binary64

namespace Http

/-- A letter of a plain text means nothing in a path. -/
theorem endsSegment_of_isPlainLetter
    {letter : Char}
    (plain : Binary64.isPlainLetter letter = true) :
    endsSegment letter = false := by
  simp only [endsSegment, Bool.or_eq_false_iff, beq_eq_false_iff_ne]
  refine ⟨⟨?_, ?_⟩, ?_⟩ <;> rintro rfl <;> exact absurd plain (by decide)

/-- The text of a value is a segment of its own. -/
theorem spells_valueText (update : Update) : Spells update.valueText update.valueText := by
  refine spells_self (fun letter present => ?_) (fun present => ?_)
  · exact endsSegment_of_isPlainLetter (Update.isPlainLetter_of_mem_valueText present)
  · exact absurd (Update.isPlainLetter_of_mem_valueText present) (by decide)

end Http

namespace Store

/-- The same counters, and the same gauges up to the spelling of "not a number". -/
structure SameValues (left right : Store) : Prop where
  gauges : ∀ name, Option.Rel Binary64.SameBits (left.gauge? name) (right.gauge? name)
  counters : ∀ name, left.counter? name = right.counter? name

theorem SameValues.refl (store : Store) : store.SameValues store where
  gauges name := by
    cases store.gauge? name with
    | none => exact .none
    | some value => exact .some (.refl value)
  counters _ := rfl

/-- A gauge that is set to the value that it has keeps all values. -/
theorem sameValues_setGauge
    {store : Store} {name : String} {value back : Binary64}
    (held : store.gauge? name = some value)
    (same : back.SameBits value) :
    (store.setGauge name back).SameValues store where
  gauges other := by
    rw [gauge?_setGauge]
    split
    next isName =>
      subst isName
      rw [held]
      exact .some same
    next => exact (SameValues.refl store).gauges other
  counters _ := rfl

/-- A gauge that is set to the number that it has leaves the store as it was. -/
theorem setGauge_self
    {store : Store} {name : String} {value : Binary64}
    (held : store.gauge? name = some value) :
    store.setGauge name value = store := by
  refine ext_lookup (fun other => ?_) (fun _ => rfl)
  rw [gauge?_setGauge]
  split
  next isName => rw [← isName, held]
  next => rfl

end Store

namespace Http
namespace Server

/-- The update of a named metric is applied, whatever the repository answers. -/
theorem respondUpdate_toMetric
    {update : Update}
    (named : update.name ≠ "")
    (server : Server) (now : Int64) (state : Service.State) (request : Request)
    (done : Response) :
    (server.respondUpdate now state request [update.toMetric] done).1.store =
        state.store.apply update ∧
      ((server.respondUpdate now state request [update.toMetric] done).2 = done ∨
        ∃ repository error, server.service.repository = some repository ∧
          repository.sync state.synced.length = some error ∧
          (server.respondUpdate now state request [update.toMetric] done).2 =
            refuseUpdate (.unsaved error)) := by
  have hasName : update.toMetric.id ≠ "" := by cases update <;> exact named
  have applied : Service.applyMetrics state.store [update.toMetric] =
      (state.store.apply update, .ok ()) := by
    rw [Service.applyMetrics, Metric.toNamedUpdate, if_neg hasName, Metric.toUpdate_toMetric]
    rfl
  have store (service : Service) (changed : Service.State) (event : Audit.Event) :
      (service.announce (service.saveSnapshot changed) event).store = changed.store :=
    (service.announce_fields _ event).1.trans (service.store_saveSnapshot changed)
  unfold respondUpdate Service.update Service.applyAndSync Service.sync
  rw [applied]
  cases shared : server.service.repository with
  | none => exact ⟨store .., Or.inl rfl⟩
  | some repository =>
      dsimp only
      cases answer : repository.sync state.synced.length with
      | none => exact ⟨store .., Or.inl rfl⟩
      | some error =>
          exact ⟨server.service.store_saveSnapshot _, Or.inr ⟨repository, error, rfl, answer, rfl⟩⟩

/-- An update without a name changes no value. -/
theorem store_respondUpdate_unnamed
    {update : Update}
    (unnamed : update.name = "")
    (server : Server) (now : Int64) (state : Service.State) (request : Request)
    (done : Response) :
    (server.respondUpdate now state request [update.toMetric] done).1.store = state.store := by
  have noName : update.toMetric.id = "" := by cases update <;> exact unnamed
  have refused : Service.applyMetrics state.store [update.toMetric] =
      (state.store, .error .missingId) := by
    rw [Service.applyMetrics, Metric.toNamedUpdate, if_pos noName]
  unfold respondUpdate Service.update Service.applyAndSync
  rw [refused]
  exact server.service.store_saveSnapshot _

/-- A stored value is answered with its text. -/
theorem handle_of_stored
    {state : Service.State} {kind : MetricKind} {name : String} {update : Update}
    {request : Request}
    (stored : state.store.find? kind name = some update)
    (gets : request.GetsValue kind.name name)
    (named : name ≠ "")
    (server : Server) (now : Int64) :
    server.handle now state request = (state, .text 200 update.valueText) := by
  rw [handle_of_getsValue gets named, answerValue, MetricKind.ofName?_name]
  dsimp only
  rw [stored]

/-- A gauge that is set through its path to the text of its value keeps it. -/
theorem handle_of_postedBack
    {state : Service.State} {name : String} {value : Binary64} {request : Request}
    (held : state.store.gauge? name = some value)
    (posts : request.PostsValue "gauge" name value.plainText)
    (server : Server) (now : Int64) :
    (server.handle now state request).1.store.SameValues state.store ∧
      (value.isNaN = false -> (server.handle now state request).1.store = state.store) ∧
      (name ≠ "" -> (server.handle now state request).2 = .text 200 "" ∨
        ∃ repository error, server.service.repository = some repository ∧
          repository.sync state.synced.length = some error ∧
          (server.handle now state request).2 = refuseUpdate (.unsaved error)) := by
  obtain ⟨back, parsed, same⟩ := Update.parse_plainText name value
  rw [handle_of_postsValue posts value.plainText_ne_empty parsed]
  by_cases unnamed : name = ""
  · have anonymous : (Update.gauge name back).name = "" := unnamed
    rw [store_respondUpdate_unnamed anonymous]
    exact ⟨.refl _, fun _ => rfl, fun named => absurd unnamed named⟩
  · have named : (Update.gauge name back).name ≠ "" := unnamed
    obtain ⟨stored, answered⟩ :=
      server.respondUpdate_toMetric named now state request (.text 200 "")
    refine ⟨?_, fun isNumber => ?_, fun _ => answered⟩
    · rw [stored]
      exact Store.sameValues_setGauge held same
    · rw [stored, same.eq isNumber]
      exact Store.setGauge_self held

/--
The text of a value has no exponent and is parsed back to that value, bit for bit; only what stands
for no number may change its spelling.  It is the text that a request for the value is answered
with, and a segment of a path as it is.  A gauge to which its own text is posted keeps its value,
and so does everything else in the store.
-/
theorem posting_a_read_value_keeps_the_store :
    (∀ (value : Binary64) (name : String),
      (∀ letter ∈ value.plainText.toList, letter ≠ 'e' ∧ letter ≠ 'E') ∧
      Spells value.plainText value.plainText ∧
      ∃ back, Update.parse "gauge" name value.plainText = .ok (.gauge name back) ∧
        back.SameBits value) ∧
    (∀ (delta : Int64) (name : String),
      Update.parse "counter" name (toString delta.toInt) = .ok (.counter name delta)) ∧
    ∀ (server : Server) (state : Service.State) (name : String),
      (∀ (delta : Int64) (read : Request) (now : Int64),
        state.store.counter? name = some delta -> read.GetsValue "counter" name ->
        name ≠ "" ->
        server.handle now state read = (state, .text 200 (toString delta.toInt))) ∧
      ∀ (value : Binary64) (read post : Request) (now later : Int64),
        state.store.gauge? name = some value -> read.GetsValue "gauge" name ->
        post.PostsValue "gauge" name value.plainText ->
        (name ≠ "" -> server.handle now state read = (state, .text 200 value.plainText)) ∧
        (server.handle later state post).1.store.SameValues state.store ∧
        (value.isNaN = false -> (server.handle later state post).1.store = state.store) ∧
        (name ≠ "" -> (server.handle later state post).2 = .text 200 "" ∨
          ∃ repository error, server.service.repository = some repository ∧
            repository.sync state.synced.length = some error ∧
            (server.handle later state post).2 = refuseUpdate (.unsaved error)) := by
  refine ⟨fun value name => ⟨fun letter => Binary64.no_exponent_of_mem_plainText,
    spells_valueText (.gauge name value), Update.parse_plainText name value⟩,
    fun delta name => Update.parse_toString name delta, fun server state name => ⟨?_, ?_⟩⟩
  · intro delta read now counted reads named
    have stored : state.store.find? .counter name = some (.counter name delta) := by
      rw [Store.find?, counted]
      rfl
    exact handle_of_stored stored reads named server now
  · intro value read post now later held reads posts
    have stored : state.store.find? .gauge name = some (.gauge name value) := by
      rw [Store.find?, held]
      rfl
    exact ⟨fun named => handle_of_stored stored reads named server now,
      handle_of_postedBack held posts server later⟩

/-- The gauge `a/b` is negative zero, is read as `-0` and stays negative zero. -/
theorem negative_zero_is_kept :
    let zero : Binary64 := .ofMagnitude true 0
    let state : Service.State := { store := Store.empty.setGauge "a/b" zero }
    let read : Request := { method := "GET", target := "/value/gauge/a%2Fb" }
    let post : Request := { method := "POST", target := "/update/gauge/a%2Fb/-0" }
    state.store.gauge? "a/b" = some zero ∧ read.GetsValue "gauge" "a/b" ∧
      post.PostsValue "gauge" "a/b" zero.plainText ∧
      ({ service := {} } : Server).handle 0 state read = (state, .text 200 zero.plainText) ∧
      (({ service := {} } : Server).handle 0 state post).1.store = state.store := by
  intro zero state read post
  have held : state.store.gauge? "a/b" = some zero := by
    rw [Store.gauge?_setGauge, if_pos rfl]
  have kind : Spells "gauge" "gauge" := .of_all (by decide) (by decide +kernel)
  have label : Spells "a%2Fb" "a/b" := .of_all (by decide) (by decide +kernel)
  have spelled : Spells "-0" zero.plainText := .of_all (by decide) (by decide +kernel)
  have reads : read.GetsValue "gauge" "a/b" :=
    ⟨rfl, ⟨"gauge", "a%2Fb", by decide +kernel, kind, label⟩, by decide +kernel⟩
  have posts : post.PostsValue "gauge" "a/b" zero.plainText :=
    ⟨rfl, ⟨"gauge", "a%2Fb", "-0", by decide +kernel, kind, label, spelled⟩, by decide +kernel⟩
  obtain ⟨isRead, -, isKept, -⟩ := (posting_a_read_value_keeps_the_store.2.2
    { service := {} } state "a/b").2 zero read post 0 0 held reads posts
  exact ⟨held, reads, posts, isRead (by decide), isKept (by decide)⟩

end Server
end Http
end Telemetry
