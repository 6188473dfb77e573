import Telemetry.Proofs.Files

/-!
# What changes leave of the files

Making directories changes no file.  Moving a new file to its place changes no
other file, and a file that was taken away is no longer there.
-/

namespace Telemetry
namespace Files
namespace Tree

/-! ## Directories that are made -/

/-- A tree with the files of another one and at least its directories. -/
structure HasSameFiles (tree after : Tree) : Prop where
  /-- Relative paths start at the same place. -/
  home : after.home = tree.home
  /-- Every directory is still there. -/
  directory : ∀ location, tree.node? location = some .directory ->
    after.node? location = some .directory
  /-- The files are the same, with the same contents. -/
  content : ∀ location, after.content? location = tree.content? location

theorem hasSameFiles_refl (tree : Tree) : HasSameFiles tree tree :=
  ⟨rfl, fun _ => id, fun _ => rfl⟩

theorem HasSameFiles.trans
    {tree other third : Tree}
    (first : HasSameFiles tree other)
    (second : HasSameFiles other third) :
    HasSameFiles tree third :=
  ⟨second.home.trans first.home,
    fun location => second.directory location ∘ first.directory location,
    fun location => (second.content location).trans (first.content location)⟩

/-- Where a directory is, there was one before, or nothing. -/
theorem HasSameFiles.node?_before
    {tree after : Tree} {location : Location}
    (same : HasSameFiles tree after)
    (isDirectory : after.node? location = some .directory) :
    tree.node? location = some .directory ∨ tree.node? location = none := by
  cases found : tree.node? location with
  | none => exact Or.inr rfl
  | some node =>
      cases node with
      | directory => exact Or.inl rfl
      | file content =>
          have contents := same.content location
          rw [content?, content?, isDirectory, found] at contents
          cases contents

/-- Names that lead somewhere once directories have been made lead to the same place before, or into
nothing. -/
theorem HasSameFiles.walk_before
    {tree made : Tree}
    (same : HasSameFiles tree made)
    {names : List String} {here location : Location}
    (found : made.walk here names = .ok location) :
    tree.walk here names = .ok location ∨ tree.walk here names = .error .notFound := by
  induction names generalizing here with
  | nil => exact Or.inl found
  | cons name rest inductionHypothesis =>
      obtain ⟨next, entered, found⟩ := (walk_cons_eq_ok_iff ..).mp found
      obtain ⟨isDirectory, leads⟩ := (enter_eq_ok_iff ..).mp entered
      rw [walk]
      rcases same.node?_before isDirectory with directory | nothing
      · rw [(enter_eq_ok_iff ..).mpr ⟨directory, leads⟩]
        exact inductionHypothesis found
      · rw [(enter_eq_notFound_iff ..).mpr nothing]
        exact Or.inr rfl

/-- Making a directory where nothing is leaves all contents alone. -/
theorem content?_insert_directory
    {tree : Tree} {location : Location}
    (unused : tree.node? location = none)
    (other : Location) :
    (tree.insert location .directory).content? other = tree.content? other := by
  have notDirectory : tree.node? location ≠ some .directory := by simp [unused]
  have below := ne_nil_of_node?_ne_directory notDirectory
  unfold content?
  rw [node?_insert tree location other _ below]
  by_cases same : location = other
  · rw [if_pos same, ← same, unused]
  · rw [if_neg same]

/-- Making a directory where nothing is changes no file. -/
theorem hasSameFiles_insert_directory
    {tree : Tree} {location : Location}
    (unused : tree.node? location = none) :
    HasSameFiles tree (tree.insert location .directory) := by
  have notDirectory : tree.node? location ≠ some .directory := by simp [unused]
  have below := ne_nil_of_node?_ne_directory notDirectory
  refine ⟨rfl, fun other isDirectory => ?_, content?_insert_directory unused⟩
  rw [node?_insert tree location other _ below]
  split
  · rfl
  · exact isDirectory

/-- Making directories changes no file, wherever it ends. -/
theorem hasSameFiles_makeDirectories (tree : Tree) (here : Location) (names : List String) :
    HasSameFiles tree (tree.makeDirectories here names).1 := by
  induction names generalizing tree here with
  | nil => exact hasSameFiles_refl tree
  | cons name rest inductionHypothesis =>
      rw [makeDirectories]
      cases tree.enter here name with
      | error error => exact hasSameFiles_refl tree
      | ok next =>
          dsimp only
          cases found : tree.node? next with
          | none => exact (hasSameFiles_insert_directory found).trans (inductionHypothesis _ next)
          | some node =>
              cases node with
              | file content => exact hasSameFiles_refl tree
              | directory => exact inductionHypothesis tree next

theorem hasSameFiles_of_makeParent
    {tree made : Tree} {parsed : Path} {result : Except FileError Location}
    (makes : tree.makeParent parsed = (made, result)) :
    HasSameFiles tree made := by
  have same := tree.hasSameFiles_makeDirectories (tree.start parsed) parsed.names.dropLast
  rwa [show tree.makeDirectories _ _ = _ from makes] at same

/-- A file that was put where nothing was and taken away again leaves nothing behind. -/
theorem hasSameFiles_erase_insert
    {tree : Tree} {location : Location}
    (unused : tree.node? location = none)
    (part : Bytes) :
    HasSameFiles tree ((tree.insert location (.file part)).erase location) := by
  have notDirectory : tree.node? location ≠ some .directory := by simp [unused]
  have below := ne_nil_of_node?_ne_directory notDirectory
  have inserted := sameDirectories_insert_file notDirectory part
  have erased := sameDirectories_erase (mt (inserted.node location).mp notDirectory)
  refine ⟨rfl, fun other => ((inserted.trans erased).node other).mpr, fun other => ?_⟩
  rw [content?_erase below, content?_insert_file below]
  by_cases same : location = other
  · rw [if_pos same, content?, ← same, unused]
  · rw [if_neg same, if_neg same]

/-- A file that is put twice at one place is what it was put there as last. -/
theorem insert_insert (tree : Tree) (location : Location) (first last : Node) :
    (tree.insert location first).insert location last = tree.insert location last := by
  unfold insert
  congr 1
  refine Std.ExtTreeMap.ext_getElem? fun other => ?_
  simp only [Std.ExtTreeMap.getElem?_insert]
  split <;> rfl

/-- Moving a filled file to its place takes it away from where it was and changes no other file. -/
theorem moveTo_spec
    {tree saved : Tree} {temporary : Location} {path : String} {body : Bytes}
    (notDirectory : tree.node? temporary ≠ some .directory)
    (moved : (tree.insert temporary (.file body)).moveTo temporary path = .ok saved) :
    SameDirectories tree saved ∧
      ∃ location, tree.locateFile path = .ok location ∧
        ∀ other, saved.content? other =
          if location = other then some body
          else if temporary = other then none
          else tree.content? other := by
  have below := ne_nil_of_node?_ne_directory notDirectory
  have inserted := sameDirectories_insert_file notDirectory body
  have isFile := mt (inserted.node temporary).mp notDirectory
  have erased := sameDirectories_erase isFile
  unfold moveTo at moved
  rw [content?_insert_file below, if_pos rfl] at moved
  dsimp only at moved
  cases found : (tree.insert temporary (.file body)).locateFile path with
  | error error =>
      rw [found] at moved
      cases moved
  | ok location =>
      rw [found] at moved
      cases moved
      obtain ⟨_, _, _, _, free⟩ :=
        (locateFile_eq_ok_iff ..).mp (locateFile_eq_ok_of_sameDirectories erased found)
      have placed := sameDirectories_insert_file free body
      refine ⟨(inserted.trans erased).trans placed, location,
        (locateFile_eq_ok_iff_of_sameDirectories inserted path location).mp found, fun other => ?_⟩
      rw [content?_insert_file (ne_nil_of_node?_ne_directory free), content?_erase below,
        content?_insert_file below]
      by_cases same : temporary = other
      · rw [if_pos same, if_pos same]
      · rw [if_neg same, if_neg same, if_neg same]

/-! ## Files that are taken away -/

/-- Taking a file away finds nothing only where nothing can be read. -/
theorem isMissing_of_remove_eq_notFound
    {tree : Tree} {text : String}
    (missing : tree.remove text = .error .notFound) :
    tree.IsMissing text := by
  rw [← read_eq_notFound_iff]
  unfold remove locateFile at missing
  unfold read
  grind

/-- A file that was taken away is no longer there, and the directories are. -/
theorem remove_spec
    {tree after : Tree} {text : String}
    (removed : tree.remove text = .ok after) :
    SameDirectories tree after ∧ after.IsMissing text ∧
      ∃ location, tree.locateFile text = .ok location := by
  unfold remove at removed
  cases found : tree.locateFile text with
  | error error =>
      rw [found] at removed
      cases removed
  | ok location =>
      rw [found] at removed
      dsimp only at removed
      obtain ⟨parsed, spelled, located, -, notDirectory⟩ := (locateFile_eq_ok_iff ..).mp found
      split at removed
      next => cases removed
      next =>
        cases removed
        have same := sameDirectories_erase notDirectory
        have gone : (tree.erase location).node? location = none := by
          rw [node?_erase _ _ _ (ne_nil_of_node?_ne_directory notDirectory), if_pos rfl]
        have leads := locate_eq_ok_of_sameDirectories same located
        exact ⟨same,
          Or.inr ⟨parsed, parsed.names, location, spelled, List.prefix_refl _, leads, gone⟩,
          location, rfl⟩

end Tree
end Files
end Telemetry
