import Telemetry.Proofs.Files.Changes
import Telemetry.Snapshot

/-!
# Saving a snapshot

Where a file can be written, saving leaves exactly the JSON array of the
metrics there, whatever was there before.
-/

namespace Telemetry
namespace Snapshot

/-- A file can be written at the location of a path: the directories that the path leads through
are there or can be made, and the path itself does not lead to a directory. -/
def CanWrite (tree : Files.Tree) (path : String) (location : Files.Location) : Prop :=
  ∃ parsed made directory,
    Files.Tree.path path = .ok parsed ∧
    tree.makeParent parsed = (made, .ok directory) ∧
    made.node? directory = some .directory ∧
    made.locateFile path = .ok location

/-- Moving a new file to the location of a path leaves its content there. -/
theorem moveTo_of_locateFile
    {tree : Files.Tree} {temporary location : Files.Location} {path : String}
    (notDirectory : tree.node? temporary ≠ some .directory)
    (found : tree.locateFile path = .ok location)
    (body : Bytes) :
    ∃ saved, (tree.insert temporary (.file body)).moveTo temporary path = .ok saved ∧
      saved.locateFile path = .ok location ∧ saved.content? location = some body := by
  have notRoot := Files.Tree.ne_nil_of_node?_ne_directory notDirectory
  let filled := tree.insert temporary (.file body)
  have sameFilled : Files.Tree.SameDirectories tree filled :=
    Files.Tree.sameDirectories_insert_file notDirectory body
  have holds : filled.content? temporary = some body := by
    rw [Files.Tree.content?_insert_file notRoot, if_pos rfl]
  have moved : filled.moveTo temporary path =
      .ok ((filled.erase temporary).insert location (.file body)) := by
    unfold Files.Tree.moveTo
    rw [holds, Files.Tree.locateFile_eq_ok_of_sameDirectories sameFilled found]
    rfl
  obtain ⟨same, other, foundOther, contents⟩ := Files.Tree.moveTo_spec notDirectory moved
  obtain rfl : location = other := Except.ok.inj (found.symm.trans foundOther)
  refine ⟨_, moved, Files.Tree.locateFile_eq_ok_of_sameDirectories same found, ?_⟩
  rw [contents, if_pos rfl]

/-- Replacing a snapshot chooses a place where nothing is for the temporary file.  It does not come
to use it, or it fills the file there and moves it, or it takes it away again. -/
theorem replace_cases (fails : Stage -> Bool) (tree : Files.Tree) (directory : Files.Location)
    (path : String) (body : Bytes) :
    ∃ temporary, tree.node? temporary = none ∧
      ((∃ error, replace fails tree directory path body = (tree, .error error) ∧
          (tree.node? directory = some .directory -> fails .makeTemporary = true)) ∨
        (tree.node? directory = some .directory ∧ fails .makeTemporary = false ∧
          ((∃ saved, replace fails tree directory path body = (saved, .ok ()) ∧
              fill fails (tree.insert temporary (.file [])) temporary path body = .ok saved) ∨
            ∃ error, replace fails tree directory path body =
                ((tree.insert temporary (.file [])).erase temporary, .error error) ∧
              fill fails (tree.insert temporary (.file [])) temporary path body =
                .error error))) := by
  obtain ⟨temporary, chosen, unused⟩ := tree.exists_unusedLocation? directory
  refine ⟨temporary, unused, ?_⟩
  unfold replace
  rw [chosen]
  by_cases isDirectory : tree.node? directory = some .directory
  · rw [isDirectory]
    dsimp only
    cases opens : fails .makeTemporary with
    | true => exact Or.inl ⟨.device, rfl, fun _ => rfl⟩
    | false =>
        refine Or.inr ⟨rfl, rfl, ?_⟩
        cases fill fails (tree.insert temporary (.file [])) temporary path body with
        | ok saved => exact Or.inl ⟨saved, rfl, rfl⟩
        | error error => exact Or.inr ⟨error, rfl, rfl⟩
  · split
    next _ found _ => exact absurd found isDirectory
    next => exact Or.inl ⟨.notDirectory, rfl, fun here => absurd here isDirectory⟩

/-- Where a file can be written, saving succeeds and leaves the metrics there. -/
theorem save_of_canWrite
    {tree : Files.Tree} {path : String} {location : Files.Location}
    (writable : CanWrite tree path location)
    (metrics : List Metric) :
    (save tree path metrics).2 = .ok () ∧
      (saveOrKeep tree path metrics).locateFile path = .ok location ∧
      (saveOrKeep tree path metrics).content? location = some (content metrics) := by
  obtain ⟨parsed, made, directory, spelled, makes, isDirectory, found⟩ := writable
  obtain ⟨temporary, chosen, unused⟩ := made.exists_unusedLocation? directory
  have notDirectory : made.node? temporary ≠ some .directory := by simp [unused]
  let opened := made.insert temporary (.file [])
  have sameOpened : Files.Tree.SameDirectories made opened :=
    Files.Tree.sameDirectories_insert_file notDirectory []
  obtain ⟨saved, moved, foundSaved, holds⟩ :=
    moveTo_of_locateFile (mt (sameOpened.node temporary).mp notDirectory)
      (Files.Tree.locateFile_eq_ok_of_sameDirectories sameOpened found) (content metrics)
  have result : save tree path metrics = (saved, .ok ()) := by
    simp [save, saveWith, Files.Tree.entryPath_of_path spelled, makes, replace, isDirectory,
      chosen, fill, opened, moved]
  unfold saveOrKeep
  rw [result]
  exact ⟨rfl, foundSaved, holds⟩

/-- Where a path leads to a file, it can be written. -/
theorem canWrite_of_locateFile
    {tree : Files.Tree} {path : String} {location : Files.Location}
    (found : tree.locateFile path = .ok location) :
    CanWrite tree path location := by
  obtain ⟨parsed, directory, spelled, makes, isDirectory⟩ :=
    Files.Tree.exists_makeParent_of_locateFile found
  exact ⟨parsed, tree, directory, spelled, makes, isDirectory, found⟩

/-- A path that can be written leads to its file, or into nothing. -/
theorem CanWrite.locateFile_cases
    {tree : Files.Tree} {path : String} {location : Files.Location}
    (writable : CanWrite tree path location) :
    tree.locateFile path = .ok location ∨ tree.locateFile path = .error .notFound := by
  obtain ⟨parsed, made, directory, spelled, makes, -, found⟩ := writable
  have same := Files.Tree.hasSameFiles_of_makeParent makes
  obtain ⟨other, spelledOther, located, isFile, notDirectory⟩ :=
    (Files.Tree.locateFile_eq_ok_iff ..).mp found
  obtain rfl : parsed = other := Except.ok.inj (spelled.symm.trans spelledOther)
  have start : made.start parsed = tree.start parsed := by
    rw [Files.Tree.start, Files.Tree.start, same.home]
  rw [Files.Tree.locate, start] at located
  rcases same.walk_before located with leads | missing
  · exact Or.inl ((Files.Tree.locateFile_eq_ok_iff ..).mpr
      ⟨parsed, spelled, leads, isFile, mt (same.directory location) notDirectory⟩)
  · refine Or.inr ?_
    unfold Files.Tree.locateFile Files.Tree.locate
    rw [spelled]
    dsimp only
    rw [missing]

/-- A file that was filled and moved to its place can be read there. -/
theorem read_of_fill
    {fails : Stage -> Bool} {tree saved : Files.Tree} {temporary : Files.Location}
    {path : String} {body : Bytes}
    (notDirectory : tree.node? temporary ≠ some .directory)
    (filled : fill fails tree temporary path body = .ok saved) :
    saved.read path = .ok body := by
  have moved : (tree.insert temporary (.file body)).moveTo temporary path = .ok saved := by
    unfold fill at filled
    split at filled
    next => cases filled
    next => exact filled
  obtain ⟨same, location, found, contents⟩ := Files.Tree.moveTo_spec notDirectory moved
  refine Files.Tree.read_eq_ok_of_locateFile
    ((Files.Tree.locateFile_eq_ok_iff_of_sameDirectories same path location).mpr found) ?_
  rw [contents, if_pos rfl]

/-- What was saved on a device that may fail can be read. -/
theorem read_of_saveWith
    {fails : Stage -> Bool} {tree saved : Files.Tree} {path : String} {metrics : List Metric}
    (isSaved : saveWith fails tree path metrics = (saved, .ok ())) :
    saved.read path = .ok (content metrics) := by
  unfold saveWith at isSaved
  split at isSaved
  next => cases isSaved
  next =>
    split at isSaved
    next => cases isSaved
    next made directory _ =>
      split at isSaved
      next => cases isSaved
      next =>
        obtain ⟨temporary, unused, ⟨_, ends, _⟩ | ⟨_, _, ⟨_, ends, filled⟩ | ⟨_, ends, _⟩⟩⟩ :=
          replace_cases fails made directory path (content metrics)
        · rw [ends] at isSaved
          cases isSaved
        · rw [ends] at isSaved
          cases isSaved
          have notDirectory : made.node? temporary ≠ some .directory := by simp [unused]
          have sameOpened := Files.Tree.sameDirectories_insert_file notDirectory []
          exact read_of_fill (mt (sameOpened.node temporary).mp notDirectory) filled
        · rw [ends] at isSaved
          cases isSaved

end Snapshot
end Telemetry
