import Telemetry.Proofs.Metric.RoundTrip
import Telemetry.Proofs.Snapshot
import Telemetry.Proofs.Store.Listing

/-!
# What saving a snapshot leaves of the files

A save can end in a few ways, whatever the device does and whatever name the
temporary file has.  In each of them it is all or nothing: either the new
snapshot is in its place and every other file is as before, or every file is.
Nothing remains of the temporary file.
-/

namespace Telemetry

namespace Snapshot

open Files (FileError)

/-- The ways in which saving a body can end, on a device that may fail anywhere and with a temporary
file of any name. -/
inductive Ending (tree : Files.Tree) (path : String) (body : Bytes) :
    Files.Tree -> Except FileError Unit -> Prop
  /-- The path is none, even as far as its last name. -/
  | refused (error : FileError) :
      Files.Tree.entryPath path = .error error ->
      Ending tree path body tree (.error error)
  /-- Some of the directories were made, or all of them, and then no temporary file. -/
  | unopened (parsed : Files.Path) (front : List String) (error : FileError) :
      Files.Tree.entryPath path = .ok parsed ->
      front <+: parsed.names.dropLast ->
      Ending tree path body (tree.makeDirectories (tree.start parsed) front).1 (.error error)
  /-- The temporary file was filled in part or whole, and then taken away. -/
  | discarded (parsed : Files.Path) (made : Files.Tree) (directory temporary : Files.Location)
      (part : Bytes) (error : FileError) :
      Files.Tree.entryPath path = .ok parsed ->
      tree.makeParent parsed = (made, .ok directory) ->
      made.node? temporary = none ->
      Ending tree path body ((made.insert temporary (.file part)).erase temporary) (.error error)
  /-- The temporary file was filled and moved to its place. -/
  | moved (parsed : Files.Path) (made saved : Files.Tree) (directory temporary : Files.Location) :
      Files.Tree.entryPath path = .ok parsed ->
      tree.makeParent parsed = (made, .ok directory) ->
      made.node? temporary = none ->
      (made.insert temporary (.file body)).moveTo temporary path = .ok saved ->
      Ending tree path body saved (.ok ())

variable {tree after : Files.Tree} {path : String} {body : Bytes}

/-- Filling a temporary file that is there and moving it succeeds only without a failure. -/
theorem fill_insert_eq_ok_iff
    (fails : Stage -> Bool) (made saved : Files.Tree) (temporary : Files.Location) (path : String)
    (body : Bytes) :
    fill fails (made.insert temporary (.file [])) temporary path body = .ok saved ↔
      (fails .writeTemporary = false ∧ fails .flush = false ∧ fails .move = false) ∧
        (made.insert temporary (.file body)).moveTo temporary path = .ok saved := by
  unfold fill
  rw [Files.Tree.insert_insert]
  cases fails .writeTemporary <;> cases fails .flush <;> cases fails .move <;> simp

/-- Replacing a snapshot, once its directories have been made, ends in one of these ways. -/
theorem ending_replace
    {parsed : Files.Path} {made : Files.Tree} {directory : Files.Location}
    (fails : Stage -> Bool)
    (spelled : Files.Tree.entryPath path = .ok parsed)
    (makes : tree.makeParent parsed = (made, .ok directory))
    (metrics : List Metric) :
    Ending tree path (content metrics) (replace fails made directory path (content metrics)).1
      (replace fails made directory path (content metrics)).2 := by
  have unopened (error : FileError) : Ending tree path (content metrics) made (.error error) := by
    have ending : Ending tree path (content metrics) (tree.makeParent parsed).1 (.error error) :=
      .unopened parsed _ error spelled (List.prefix_refl _)
    rwa [makes] at ending
  obtain ⟨temporary, unused, ⟨error, ends, -⟩ | ⟨-, -, ⟨saved, ends, filled⟩ | ⟨error, ends, -⟩⟩⟩ :=
    replace_cases fails made directory path (content metrics)
  · rw [ends]
    exact unopened error
  · rw [ends]
    exact .moved parsed made saved directory temporary spelled makes unused
      ((fill_insert_eq_ok_iff ..).mp filled).2
  · rw [ends]
    exact .discarded parsed made directory temporary [] error spelled makes unused

/-- Every save ends in one of these ways. -/
theorem ending_saveWith (fails : Stage -> Bool) (tree : Files.Tree) (path : String)
    (metrics : List Metric) :
    Ending tree path (content metrics) (saveWith fails tree path metrics).1
      (saveWith fails tree path metrics).2 := by
  unfold saveWith
  cases spelled : Files.Tree.entryPath path with
  | error error => exact .refused error spelled
  | ok parsed =>
      dsimp only
      have whole (error : FileError) :
          Ending tree path (content metrics) (tree.makeParent parsed).1 (.error error) :=
        .unopened parsed _ error spelled (List.prefix_refl _)
      cases makes : tree.makeParent parsed with
      | mk made result =>
          rw [makes] at whole
          cases result with
          | error error => exact whole error
          | ok directory =>
              dsimp only
              split
              next => exact whole .device
              next => exact ending_replace fails spelled makes metrics

/-- What a save has to do with its result. -/
structure IsAllOrNothing (tree : Files.Tree) (path : String) (body : Bytes) (after : Files.Tree)
    (result : Except FileError Unit) : Prop where
  /-- Once the save has succeeded, the body is read at the path. -/
  saved : result = .ok () -> after.read path = .ok body
  /-- It is in the file that the path means, and every other file is what it was. -/
  others : result = .ok () -> ∃ location, Files.Tree.place? tree.home path = some location ∧
    ∀ other, after.content? other = if location = other then some body else tree.content? other
  /-- When the save has failed, every file is what it was. -/
  kept : ∀ error, result = .error error ->
    ∀ location, after.content? location = tree.content? location
  /-- No file has come into being, but perhaps the one that the path means. -/
  noTemporary : ∀ location, (after.content? location).isSome = true ->
    (tree.content? location).isSome = true ∨
      (result = .ok () ∧ Files.Tree.place? tree.home path = some location)
  /-- No directory is lost. -/
  directory : ∀ location, tree.node? location = some .directory ->
    after.node? location = some .directory

/-- A failed save that has left the files as they were has left no temporary file. -/
theorem isAllOrNothing_of_hasSameFiles
    (same : tree.HasSameFiles after)
    (error : FileError) :
    IsAllOrNothing tree path body after (.error error) where
  saved := nofun
  others := nofun
  kept := fun _ _ => same.content
  noTemporary := fun location present => Or.inl (same.content location ▸ present)
  directory := same.directory

/-- However a save ends, it is all or nothing. -/
theorem Ending.isAllOrNothing
    {result : Except FileError Unit}
    (ending : Ending tree path body after result) :
    IsAllOrNothing tree path body after result := by
  cases ending with
  | refused error spelled => exact isAllOrNothing_of_hasSameFiles tree.hasSameFiles_refl error
  | unopened parsed front error spelled leads =>
      exact isAllOrNothing_of_hasSameFiles (tree.hasSameFiles_makeDirectories _ front) error
  | discarded parsed made directory temporary part error spelled makes unused =>
      have grown := Files.Tree.hasSameFiles_of_makeParent makes
      exact isAllOrNothing_of_hasSameFiles
        (grown.trans (Files.Tree.hasSameFiles_erase_insert unused part)) error
  | moved parsed made saved directory temporary spelled makes unused moved =>
      have grown := Files.Tree.hasSameFiles_of_makeParent makes
      obtain ⟨same, location, found, contents⟩ :=
        Files.Tree.moveTo_spec (by simp [unused]) moved
      have place : Files.Tree.place? tree.home path = some location := by
        rw [← grown.home]
        exact Files.Tree.place?_of_locateFile found
      have others (other : Files.Location) :
          after.content? other = if location = other then some body else tree.content? other := by
        have empty : made.content? temporary = none := by rw [Files.Tree.content?, unused]
        rw [contents, ← grown.content]
        split
        · rfl
        · split
          next here => rw [← here, empty]
          next => rfl
      refine ⟨fun _ => ?_, fun _ => ⟨location, place, others⟩, fun _ failed => ?_,
        fun other present => ?_,
        fun other isDirectory => (same.node other).mpr (grown.directory other isDirectory)⟩
      · refine Files.Tree.read_eq_ok_of_locateFile
          ((Files.Tree.locateFile_eq_ok_iff_of_sameDirectories same path location).mpr found) ?_
        rw [others, if_pos rfl]
      · cases failed
      · rw [others] at present
        split at present
        next here => exact Or.inr ⟨rfl, here ▸ place⟩
        next => exact Or.inl present

/-- What replacing a snapshot has found when it succeeds. -/
theorem exists_of_replace_eq_ok
    {fails : Stage -> Bool} {directory : Files.Location}
    (succeeds : (replace fails tree directory path body).2 = .ok ()) :
    tree.node? directory = some .directory ∧ fails .makeTemporary = false ∧
      ∃ temporary saved, tree.node? temporary = none ∧
        fill fails (tree.insert temporary (.file [])) temporary path body = .ok saved := by
  obtain ⟨temporary, unused,
      ⟨error, ends, -⟩ | ⟨isDirectory, opens, ⟨saved, ends, filled⟩ | ⟨error, ends, -⟩⟩⟩ :=
    replace_cases fails tree directory path body
  · rw [ends] at succeeds
    cases succeeds
  · exact ⟨isDirectory, opens, temporary, saved, unused, filled⟩
  · rw [ends] at succeeds
    cases succeeds

/-- A save succeeds exactly if its path can be written and the device does not fail. -/
theorem saveWith_eq_ok_iff (fails : Stage -> Bool) (tree : Files.Tree) (path : String)
    (metrics : List Metric) :
    (saveWith fails tree path metrics).2 = .ok () ↔
      (∀ stage, fails stage = false) ∧ ∃ location, CanWrite tree path location := by
  constructor
  · intro succeeds
    unfold saveWith at succeeds
    split at succeeds
    next => cases succeeds
    next parsed spelled =>
      split at succeeds
      next => cases succeeds
      next made directory makes =>
        split at succeeds
        next => cases succeeds
        next prepared =>
          obtain ⟨isDirectory, opened, temporary, saved, unused, filled⟩ :=
            exists_of_replace_eq_ok succeeds
          obtain ⟨⟨written, flushed, moves⟩, moved⟩ := (fill_insert_eq_ok_iff ..).mp filled
          obtain ⟨-, location, found, -⟩ := Files.Tree.moveTo_spec (by simp [unused]) moved
          obtain ⟨other, whole, -⟩ := (Files.Tree.locateFile_eq_ok_iff ..).mp found
          obtain rfl : parsed = other :=
            Except.ok.inj (spelled.symm.trans (Files.Tree.entryPath_of_path whole))
          refine ⟨fun stage => ?_, location, parsed, made, directory, whole, makes, isDirectory,
            found⟩
          cases stage with
          | makeDirectory => exact Bool.eq_false_of_not_eq_true prepared
          | makeTemporary => exact opened
          | writeTemporary => exact written
          | flush => exact flushed
          | move => exact moves
  · rintro ⟨works, location, writable⟩
    obtain rfl : fails = fun _ => false := funext works
    exact (save_of_canWrite writable metrics).1

/--
Saving a store is all or nothing, in whatever order the store lists its metrics: after a success the
file holds the whole list and no other file has changed, and after a failure no file has.  It
succeeds exactly where the path can be written and the device does not fail.  None of this depends
on where the device fails, on how much was written by then, or on the name of the temporary file.
-/
theorem save_is_all_or_nothing {store : Store} (listing : store.Listing) (tree : Files.Tree)
    (path : String) :
    (listing.IsComplete ∧
        Metric.listOfJson (content listing.metrics) = .ok (listing.metrics.map Metric.readBack)) ∧
      (∀ fails,
        IsAllOrNothing tree path (content listing.metrics)
            (saveWith fails tree path listing.metrics).1
            (saveWith fails tree path listing.metrics).2 ∧
          ((saveWith fails tree path listing.metrics).2 = .ok () ↔
            (∀ stage, fails stage = false) ∧ ∃ location, CanWrite tree path location) ∧
          Ending tree path (content listing.metrics) (saveWith fails tree path listing.metrics).1
            (saveWith fails tree path listing.metrics).2) ∧
      ∀ after result, Ending tree path (content listing.metrics) after result ->
        IsAllOrNothing tree path (content listing.metrics) after result := by
  refine ⟨⟨listing.isComplete, Metric.listOfJson_listJson listing.metrics⟩, fun fails => ?_,
    fun _ _ ending => ending.isAllOrNothing⟩
  have ending := ending_saveWith fails tree path listing.metrics
  exact ⟨ending.isAllOrNothing, saveWith_eq_ok_iff fails tree path listing.metrics, ending⟩

end Snapshot
end Telemetry
