import Telemetry.Proofs.Audit
import Telemetry.Proofs.Snapshot
import Telemetry.Service

/-!
# What an update does

An update applies the longest run of its metrics, from the first on, that are
all updates of named metrics.  What stops it, and what the repository answers,
decide how it ends and whether it is announced; the snapshot is written with
the changed store in any case.
-/

namespace Telemetry

namespace Metric

/-- A metric that is an update and has a name. -/
def IsNamedUpdate (metric : Metric) : Prop :=
  metric.id ≠ "" ∧ ∃ update, metric.toUpdate = .ok update

/-- Why a metric stops an update: a missing name counts before anything else. -/
def StopsWith (metric : Metric) (error : MetricError) : Prop :=
  (metric.id = "" ∧ error = .missingId) ∨
    (metric.id ≠ "" ∧ metric.toUpdate = .error error)

theorem not_isNamedUpdate_of_stopsWith
    {metric : Metric} {error : MetricError}
    (stops : metric.StopsWith error) :
    ¬metric.IsNamedUpdate := by
  rintro ⟨named, update, isUpdate⟩
  rcases stops with ⟨unnamed, -⟩ | ⟨-, refused⟩
  · exact named unnamed
  · rw [isUpdate] at refused
    cases refused

theorem toNamedUpdate_cases (metric : Metric) :
    (∃ update, metric.toNamedUpdate = .ok update ∧ metric.toUpdate = .ok update ∧
        metric.IsNamedUpdate) ∨
      ∃ error, metric.toNamedUpdate = .error error ∧ metric.StopsWith error := by
  unfold toNamedUpdate
  by_cases unnamed : metric.id = ""
  · rw [if_pos unnamed]
    exact Or.inr ⟨.missingId, rfl, Or.inl ⟨unnamed, rfl⟩⟩
  · rw [if_neg unnamed]
    cases parsed : metric.toUpdate with
    | ok update => exact Or.inl ⟨update, rfl, rfl, unnamed, update, parsed⟩
    | error error => exact Or.inr ⟨error, rfl, Or.inr ⟨unnamed, parsed⟩⟩

end Metric

namespace Service

/-- The longest run of metrics, from the first on, that are all updates of named metrics; the
others follow it. -/
structure LongestValid (metrics applied rest : List Metric) : Prop where
  split : metrics = applied ++ rest
  valid : ∀ metric ∈ applied, metric.IsNamedUpdate
  longest : ∀ longer, longer <+: metrics ->
    (∀ metric ∈ longer, metric.IsNamedUpdate) -> longer <+: applied

/-- How an update ends, given the metrics that were not applied: its result, and what the
repository has been given when it does. -/
inductive Ending (service : Service) (before after : State) :
    List Metric -> Except UpdateError Unit -> Prop
  /-- The first metric that is not applied stops the update, and the repository is not called. -/
  | stopped (first : Metric) (others : List Metric) (error : MetricError) :
      first.StopsWith error ->
      after.synced = before.synced ->
      Ending service before after (first :: others) (.error (.invalid error))
  /-- The repository is called once with the whole changed store, and fails. -/
  | unsaved (repository : Repository) (error : RepositoryError) :
      service.repository = some repository ->
      repository.sync before.synced.length = some error ->
      after.synced = before.synced ++ [after.store.metrics] ->
      Ending service before after [] (.error (.unsaved error))
  /-- The repository is called once with the whole changed store, and takes it. -/
  | saved (repository : Repository) :
      service.repository = some repository ->
      repository.sync before.synced.length = none ->
      after.synced = before.synced ++ [after.store.metrics] ->
      Ending service before after [] (.ok ())
  /-- There is no repository. -/
  | unshared :
      service.repository = none ->
      after.synced = before.synced ->
      Ending service before after [] (.ok ())

/-- The world once the snapshot was written: nothing but files may have changed, and only if
there is a snapshot to write.  Where it can be written, its file then holds the store. -/
structure SnapshotWritten (service : Service) (before saved : World) (store : Store) : Prop where
  endpoints : saved.endpoints = before.endpoints
  absent : service.snapshot = none -> saved = before
  written : ∀ path, service.snapshot = some path ->
    saved.files = Snapshot.saveOrKeep before.files path store.metrics ∧
      ∀ location, Snapshot.CanWrite before.files path location ->
        saved.files.locateFile path = .ok location ∧
          saved.files.content? location = some (Snapshot.content store.metrics)

/-- Every sink was offered the event once, in the order of the sinks; so each address that can be
reached received a request for every sink that posts to it, and each file grew by a line for every
sink that appends to it. -/
structure AnnouncedOnce (sinks : List Audit.Sink) (event : Audit.Event) (before after : World) :
    Prop where
  offered : after = Audit.offer before event sinks
  received : ∀ url, after.received url =
    before.received url ++
      (if (before.endpoints.lookup url).isSome then
        List.replicate (sinks.count (.remote url)) (event.request url)
      else [])
  appended : ∀ location, after.files.content? location =
    let lines :=
      List.replicate (sinks.countP (Audit.Sink.appendsTo before.files location)) event.line
    if lines = [] then before.files.content? location
    else some ((before.files.content? location).getD [] ++ lines.flatten)

/-- Only a complete update is announced. -/
def Announced (sinks : List Audit.Sink) (event : Audit.Event) (before after : World) :
    Except UpdateError Unit -> Prop
  | .ok () => AnnouncedOnce sinks event before after
  | .error _ => after = before

/-! ## Applying metrics -/

/-- Metrics are applied up to the first one that is no update of a named metric. -/
theorem applyMetrics_spec (store : Store) (metrics : List Metric) :
    ∃ applied rest, LongestValid metrics applied rest ∧
      (applyMetrics store metrics).1 = store.applyAll (Snapshot.validUpdates applied) ∧
      match rest with
      | [] => (applyMetrics store metrics).2 = .ok ()
      | first :: _ => ∃ error, first.StopsWith error ∧
          (applyMetrics store metrics).2 = .error error := by
  induction metrics generalizing store with
  | nil =>
      refine ⟨[], [], ⟨rfl, by simp, fun longer isPrefix _ => isPrefix⟩, rfl, rfl⟩
  | cons metric others inductionHypothesis =>
      rcases metric.toNamedUpdate_cases with
        ⟨update, named, isUpdate, valid⟩ | ⟨error, refused, stops⟩
      · obtain ⟨applied, rest, longestValid, stored, ended⟩ :=
          inductionHypothesis (store.apply update)
        have step : applyMetrics store (metric :: others) =
            applyMetrics (store.apply update) others := by
          rw [applyMetrics, named]
        refine ⟨metric :: applied, rest, ⟨?_, ?_, ?_⟩, ?_, ?_⟩
        · rw [longestValid.split, List.cons_append]
        · rintro entry (_ | ⟨_, later⟩)
          · exact valid
          · exact longestValid.valid entry later
        · intro longer isPrefix allValid
          cases longer with
          | nil => exact List.nil_prefix
          | cons first tail =>
              obtain ⟨rfl, tailPrefix⟩ := List.cons_prefix_cons.mp isPrefix
              exact List.cons_prefix_cons.mpr ⟨rfl, longestValid.longest tail tailPrefix
                fun entry present => allValid entry (List.mem_cons_of_mem _ present)⟩
        · rw [step, stored]
          simp [Snapshot.validUpdates, isUpdate, Store.applyAll, Except.toOption]
        · rw [step]
          exact ended
      · have stopped : applyMetrics store (metric :: others) = (store, .error error) := by
          rw [applyMetrics, refused]
        refine ⟨[], metric :: others, ⟨rfl, by simp, ?_⟩, ?_, error, stops, ?_⟩
        · intro longer isPrefix allValid
          cases longer with
          | nil => exact List.nil_prefix
          | cons first tail =>
              obtain ⟨rfl, -⟩ := List.cons_prefix_cons.mp isPrefix
              exact absurd (allValid first List.mem_cons_self)
                (Metric.not_isNamedUpdate_of_stopsWith stops)
        · rw [stopped]
          rfl
        · rw [stopped]

/-! ## The steps of an update -/

/-- An ending speaks of the store and of what the repository was given, and of nothing else. -/
theorem Ending.congr
    {service : Service} {before after later : State} {rest : List Metric}
    {result : Except UpdateError Unit}
    (ending : Ending service before after rest result)
    (store : later.store = after.store) (synced : later.synced = after.synced) :
    Ending service before later rest result := by
  cases ending with
  | stopped first others error stops kept =>
      exact .stopped first others error stops (synced.trans kept)
  | unsaved repository error found fails called =>
      exact .unsaved repository error found fails (by rw [synced, store, called])
  | saved repository found takes called =>
      exact .saved repository found takes (by rw [synced, store, called])
  | unshared missing kept => exact .unshared missing (synced.trans kept)

/-- Applying metrics and giving the store to the repository changes the store and what the
repository was given, and nothing else. -/
theorem applyAndSync_spec
    (service : Service) (state : State) (metrics : List Metric) :
    ∃ applied rest, LongestValid metrics applied rest ∧
      (service.applyAndSync state metrics).1.store =
        state.store.applyAll (Snapshot.validUpdates applied) ∧
      (service.applyAndSync state metrics).1.world = state.world ∧
      (service.applyAndSync state metrics).1.pings = state.pings ∧
      Ending service state (service.applyAndSync state metrics).1 rest
        (service.applyAndSync state metrics).2 := by
  obtain ⟨applied, rest, longestValid, stored, ended⟩ := applyMetrics_spec state.store metrics
  refine ⟨applied, rest, longestValid, ?_⟩
  unfold applyAndSync
  cases outcome : applyMetrics state.store metrics with
  | mk store result =>
      rw [outcome] at stored ended
      cases rest with
      | cons first others =>
          obtain ⟨error, stops, rfl⟩ := ended
          exact ⟨stored, rfl, rfl, .stopped first others error stops rfl⟩
      | nil =>
          dsimp only at ended
          subst ended
          unfold sync
          cases shared : service.repository with
          | none => exact ⟨stored, rfl, rfl, .unshared shared rfl⟩
          | some repository =>
              cases answer : repository.sync state.synced.length with
              | none =>
                  simp only [answer]
                  exact ⟨stored, trivial, trivial, .saved repository shared answer rfl⟩
              | some error =>
                  simp only [answer]
                  exact ⟨stored, trivial, trivial, .unsaved repository error shared answer rfl⟩

@[simp] theorem store_saveSnapshot (service : Service) (state : State) :
    (service.saveSnapshot state).store = state.store := by
  unfold saveSnapshot
  split <;> rfl

@[simp] theorem synced_saveSnapshot (service : Service) (state : State) :
    (service.saveSnapshot state).synced = state.synced := by
  unfold saveSnapshot
  split <;> rfl

@[simp] theorem pings_saveSnapshot (service : Service) (state : State) :
    (service.saveSnapshot state).pings = state.pings := by
  unfold saveSnapshot
  split <;> rfl

/-- Writing the snapshot leaves the store in its file. -/
theorem snapshotWritten_saveSnapshot (service : Service) (state : State) :
    SnapshotWritten service state.world (service.saveSnapshot state).world state.store := by
  unfold saveSnapshot
  cases place : service.snapshot with
  | none => exact ⟨rfl, fun _ => rfl, fun path isPlace => nomatch place.symm.trans isPlace⟩
  | some path =>
      refine ⟨rfl, fun missing => (nomatch place.symm.trans missing), ?_⟩
      intro given isPlace
      cases place.symm.trans isPlace
      refine ⟨rfl, fun location writable => ?_⟩
      exact (Snapshot.save_of_canWrite writable state.store.metrics).2

theorem announce_fields (service : Service) (state : State) (event : Audit.Event) :
    (service.announce state event).store = state.store ∧
      (service.announce state event).synced = state.synced ∧
      (service.announce state event).pings = state.pings := by
  unfold announce
  split <;> exact ⟨rfl, rfl, rfl⟩

/-- Announcing an event offers it once to every sink, if there are any. -/
theorem announcedOnce_announce (service : Service) (state : State) (event : Audit.Event) :
    AnnouncedOnce (service.publisher.sinks.map Prod.snd) event state.world
      (service.announce state event).world := by
  have offered : (service.announce state event).world =
      Audit.offer state.world event (service.publisher.sinks.map Prod.snd) := by
    unfold announce Audit.Publisher.hasSinks
    cases sinks : service.publisher.sinks with
    | nil => rfl
    | cons first others =>
        rw [if_pos (by simp), Audit.Publisher.notify_eq_offers, sinks]
  refine ⟨offered, ?_, ?_⟩
  · rw [offered]
    exact Audit.received_offer state.world event _
  · rw [offered]
    exact (Audit.files_offer state.world event _).2

/-- An announcement leaves a file alone that no sink appends to. -/
theorem AnnouncedOnce.read_eq
    {sinks : List Audit.Sink} {event : Audit.Event} {before after : World}
    (announced : AnnouncedOnce sinks event before after)
    {path : String} {location : Files.Location} {content : Bytes}
    (found : before.files.locateFile path = .ok location)
    (holds : before.files.content? location = some content)
    (untouched : ∀ sink ∈ sinks, sink.appendsTo before.files location = false) :
    after.files.read path = .ok content := by
  have none : sinks.countP (Audit.Sink.appendsTo before.files location) = 0 := by
    rw [List.countP_eq_zero]
    intro sink present
    simp [untouched sink present]
  have kept := announced.appended location
  rw [none] at kept
  have same := (Audit.files_offer before event sinks).1
  rw [← announced.offered] at same
  exact Files.Tree.read_eq_ok_of_locateFile
    (Files.Tree.locateFile_eq_ok_of_sameDirectories same found) (kept.trans holds)

/-- An update leaves the content of a file as its snapshot left it if no sink appends to it. -/
theorem Announced.content?_eq
    {sinks : List Audit.Sink} {event : Audit.Event} {before after : World}
    {result : Except UpdateError Unit}
    (announced : Announced sinks event before after result)
    {location : Files.Location}
    (untouched : result = .ok () ->
      ∀ sink ∈ sinks, sink.appendsTo before.files location = false) :
    after.files.content? location = before.files.content? location := by
  cases result with
  | error error => rw [show after = before from announced]
  | ok done =>
      have none : sinks.countP (Audit.Sink.appendsTo before.files location) = 0 := by
        rw [List.countP_eq_zero]
        intro sink present
        simp [untouched rfl sink present]
      have kept := announced.appended location
      rwa [none] at kept

/-- A file that no sink appends to is read after an update as its snapshot left it. -/
theorem Announced.read_eq
    {sinks : List Audit.Sink} {event : Audit.Event} {before after : World}
    {result : Except UpdateError Unit}
    (announced : Announced sinks event before after result)
    {path : String} {location : Files.Location} {content : Bytes}
    (found : before.files.locateFile path = .ok location)
    (holds : before.files.content? location = some content)
    (untouched : result = .ok () ->
      ∀ sink ∈ sinks, sink.appendsTo before.files location = false) :
    after.files.read path = .ok content := by
  cases result with
  | error error =>
      rw [show after = before from announced]
      exact Files.Tree.read_eq_ok_of_locateFile found holds
  | ok done => exact AnnouncedOnce.read_eq announced found holds (untouched rfl)

/-! ## The whole update -/

/-- After its metrics were applied and given to the repository, an update writes the snapshot, and
then announces itself if it was complete. -/
theorem update_after_applyAndSync
    (service : Service) (state : State) (now : Int64) (metrics : List Metric)
    (address : String) :
    let changed := (service.applyAndSync state metrics).1
    let after := (service.update state now metrics address).1
    let result := (service.update state now metrics address).2
    result = (service.applyAndSync state metrics).2 ∧
      (after.store = changed.store ∧ after.synced = changed.synced ∧
        after.pings = changed.pings) ∧
      Announced (service.publisher.sinks.map Prod.snd) ⟨now, metrics.map Metric.id, address⟩
        (service.saveSnapshot changed).world after.world result := by
  unfold update
  cases service.applyAndSync state metrics with
  | mk changed result =>
      cases result with
      | error error => exact ⟨rfl, ⟨by simp, by simp, by simp⟩, rfl⟩
      | ok done =>
          obtain ⟨store, synced, pings⟩ := service.announce_fields
            (service.saveSnapshot changed) ⟨now, metrics.map Metric.id, address⟩
          refine ⟨rfl, ⟨?_, ?_, ?_⟩, service.announcedOnce_announce ..⟩
          · exact store.trans (service.store_saveSnapshot changed)
          · exact synced.trans (service.synced_saveSnapshot changed)
          · exact pings.trans (service.pings_saveSnapshot changed)

/--
An update applies the longest run of its metrics that are updates; the first metric after it, or
else the repository, decides how it ends; the snapshot is written with the changed store in any
case; and only then, and only if it was complete, it is announced once to every sink.  A snapshot
that can be written and that no sink appends to holds the changed store at the end.
-/
theorem update_effects
    (service : Service) (state : State) (now : Int64) (metrics : List Metric)
    (address : String) :
    let after := (service.update state now metrics address).1
    let result := (service.update state now metrics address).2
    let sinks := service.publisher.sinks.map Prod.snd
    ∃ applied rest saved,
      LongestValid metrics applied rest ∧
      after.store = state.store.applyAll (Snapshot.validUpdates applied) ∧
      after.pings = state.pings ∧
      Ending service state after rest result ∧
      SnapshotWritten service state.world saved after.store ∧
      Announced sinks ⟨now, metrics.map Metric.id, address⟩ saved after.world result ∧
      ∀ path location, service.snapshot = some path ->
        Snapshot.CanWrite state.world.files path location ->
        (result = .ok () -> ∀ sink ∈ sinks, sink.appendsTo saved.files location = false) ->
        after.world.files.read path = .ok (Snapshot.content after.store.metrics) := by
  intro after result sinks
  obtain ⟨applied, rest, longestValid, stored, world, pings, ending⟩ :=
    service.applyAndSync_spec state metrics
  obtain ⟨isResult, ⟨store, synced, asked⟩, announced⟩ :=
    service.update_after_applyAndSync state now metrics address
  let changed := (service.applyAndSync state metrics).1
  have written : SnapshotWritten service state.world (service.saveSnapshot changed).world
      after.store := by
    have saved := service.snapshotWritten_saveSnapshot changed
    rw [show changed.world = state.world from world] at saved
    rw [show after.store = changed.store from store]
    exact saved
  refine ⟨applied, rest, (service.saveSnapshot changed).world, longestValid, store.trans stored,
    asked.trans pings, ?_, written, announced, ?_⟩
  · rw [show result = _ from isResult]
    exact ending.congr store synced
  · intro path location place writable untouched
    obtain ⟨found, holds⟩ := (written.written path place).2 location writable
    cases ended : result with
    | error error =>
        have unannounced : after.world = (service.saveSnapshot changed).world := by
          simpa [Announced, show (service.update state now metrics address).2 = _ from ended]
            using announced
        rw [unannounced]
        exact Files.Tree.read_eq_ok_of_locateFile found holds
    | ok done =>
        have once : AnnouncedOnce sinks ⟨now, metrics.map Metric.id, address⟩
            (service.saveSnapshot changed).world after.world := by
          simpa [Announced, show (service.update state now metrics address).2 = _ from ended]
            using announced
        exact once.read_eq found holds (untouched ended)

end Service
end Telemetry
