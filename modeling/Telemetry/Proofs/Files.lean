import Mathlib.Data.List.Nodup
import Mathlib.Data.List.Perm.Subperm
import Std.Data.String.ToNat
import Telemetry.Files.Tree

/-!
# Where paths lead, and what is there

Where a path leads depends on the directories only.  So it leads to the same
place in all trees with the same directories, and a change of one file leaves
the contents of all other files alone.
-/

namespace Telemetry
namespace Files
namespace Tree

/-- Two trees with the same directories, in which relative paths start at the same place. -/
structure SameDirectories (tree other : Tree) : Prop where
  home : other.home = tree.home
  node : ∀ location,
    other.node? location = some .directory ↔ tree.node? location = some .directory

namespace SameDirectories

theorem refl (tree : Tree) : SameDirectories tree tree :=
  ⟨rfl, fun _ => Iff.rfl⟩

theorem symm
    {tree other : Tree}
    (same : SameDirectories tree other) :
    SameDirectories other tree :=
  ⟨same.home.symm, fun location => (same.node location).symm⟩

theorem trans
    {tree other third : Tree}
    (first : SameDirectories tree other)
    (second : SameDirectories other third) :
    SameDirectories tree third :=
  ⟨second.home.trans first.home,
    fun location => (second.node location).trans (first.node location)⟩

end SameDirectories

/-- The root cannot be taken for a file. -/
theorem ne_nil_of_node?_ne_directory
    {tree : Tree} {location : Location}
    (notDirectory : tree.node? location ≠ some .directory) :
    location ≠ [] := by
  rintro rfl
  exact notDirectory rfl

/-- Putting a file where no directory is leaves the directories alone. -/
theorem sameDirectories_insert_file
    {tree : Tree} {location : Location}
    (notDirectory : tree.node? location ≠ some .directory)
    (content : Bytes) :
    SameDirectories tree (tree.insert location (.file content)) := by
  refine ⟨rfl, fun other => ?_⟩
  rw [node?_insert tree location other _ (ne_nil_of_node?_ne_directory notDirectory)]
  by_cases same : location = other
  · subst same
    simp [notDirectory]
  · rw [if_neg same]

/-- Taking away what is no directory leaves the directories alone. -/
theorem sameDirectories_erase
    {tree : Tree} {location : Location}
    (notDirectory : tree.node? location ≠ some .directory) :
    SameDirectories tree (tree.erase location) := by
  refine ⟨rfl, fun other => ?_⟩
  rw [node?_erase tree location other (ne_nil_of_node?_ne_directory notDirectory)]
  by_cases same : location = other
  · subst same
    simp [notDirectory]
  · rw [if_neg same]

/-! ## Where paths lead -/

/-- Entering a name leads to a place only from a directory. -/
theorem enter_eq_ok_iff
    (tree : Tree) (here next : Location) (name : String) :
    tree.enter here name = .ok next ↔
      tree.node? here = some .directory ∧
        (if name = ".." then next = here.dropLast
          else name.utf8ByteSize ≤ nameLimit ∧ next = here ++ [name]) := by
  unfold enter
  cases tree.node? here with
  | none => simp
  | some node =>
      cases node with
      | file content => simp
      | directory =>
          by_cases up : name = ".."
          · simp [up, eq_comm]
          · by_cases tooLong : nameLimit < name.utf8ByteSize
            · simp [up, tooLong, Nat.not_le_of_lt tooLong]
            · simp [up, tooLong, Nat.le_of_not_lt tooLong, eq_comm]

/-- Names lead somewhere if the first one does and the others lead on from there. -/
theorem walk_cons_eq_ok_iff
    (tree : Tree) (here location : Location) (name : String) (rest : List String) :
    tree.walk here (name :: rest) = .ok location ↔
      ∃ next, tree.enter here name = .ok next ∧ tree.walk next rest = .ok location := by
  rw [walk]
  cases tree.enter here name <;> simp

/-- Names lead to the same place in trees with the same directories. -/
theorem walk_eq_ok_of_sameDirectories
    {tree other : Tree}
    (same : SameDirectories tree other)
    {names : List String} {here location : Location}
    (found : tree.walk here names = .ok location) :
    other.walk here names = .ok location := by
  induction names generalizing here with
  | nil => exact found
  | cons name rest inductionHypothesis =>
      obtain ⟨next, entered, found⟩ := (walk_cons_eq_ok_iff ..).mp found
      obtain ⟨directory, leads⟩ := (enter_eq_ok_iff ..).mp entered
      have enteredOther : other.enter here name = .ok next :=
        (enter_eq_ok_iff ..).mpr ⟨(same.node here).mpr directory, leads⟩
      exact (walk_cons_eq_ok_iff ..).mpr ⟨next, enteredOther, inductionHypothesis found⟩

/-- A path leads to the same place in trees with the same directories. -/
theorem locate_eq_ok_of_sameDirectories
    {tree other : Tree}
    (same : SameDirectories tree other)
    {path : Path} {location : Location}
    (found : tree.locate path = .ok location) :
    other.locate path = .ok location := by
  unfold locate start at found ⊢
  rw [same.home]
  exact walk_eq_ok_of_sameDirectories same found

/-- The place that a name means next to a place, whatever is there. -/
def follow (here : Location) (name : String) : Location :=
  if name = ".." then here.dropLast else here ++ [name]

/-- The place that a path means, whatever is there, when relative paths start at a home. -/
def place? (home : Location) (text : String) : Option Location :=
  (path text).toOption.map fun path =>
    path.names.foldl follow (if path.isAbsolute then [] else home)

/-- Names lead nowhere but to the place that they mean. -/
theorem eq_foldl_follow_of_walk
    {tree : Tree} {names : List String} {here location : Location}
    (found : tree.walk here names = .ok location) :
    location = names.foldl follow here := by
  induction names generalizing here with
  | nil => exact (Except.ok.inj found).symm
  | cons name rest inductionHypothesis =>
      obtain ⟨next, entered, found⟩ := (walk_cons_eq_ok_iff ..).mp found
      obtain ⟨-, leads⟩ := (enter_eq_ok_iff ..).mp entered
      have follows : next = follow here name := by
        unfold follow
        split at leads
        next up => rw [if_pos up, leads]
        next down => rw [if_neg down, leads.2]
      rw [List.foldl_cons, ← follows]
      exact inductionHypothesis found

/-- The location of a file: its path leads there and is not spelled like one of a directory, and
no directory is there. -/
theorem locateFile_eq_ok_iff
    (tree : Tree) (text : String) (location : Location) :
    tree.locateFile text = .ok location ↔
      ∃ parsed, path text = .ok parsed ∧ tree.locate parsed = .ok location ∧
        parsed.isDirectory = false ∧ tree.node? location ≠ some .directory := by
  unfold locateFile
  cases path text with
  | error error => simp
  | ok parsed =>
      dsimp only
      cases located : tree.locate parsed with
      | error error => simp [located]
      | ok place =>
          dsimp only
          cases found : tree.node? place with
          | none => cases spelled : parsed.isDirectory <;> grind
          | some node =>
              cases node with
              | directory => grind
              | file content => cases spelled : parsed.isDirectory <;> grind

/-- A path leads to the same file in trees with the same directories. -/
theorem locateFile_eq_ok_of_sameDirectories
    {tree other : Tree}
    (same : SameDirectories tree other)
    {text : String} {location : Location}
    (found : tree.locateFile text = .ok location) :
    other.locateFile text = .ok location := by
  obtain ⟨parsed, spelled, located, isFile, notDirectory⟩ := (locateFile_eq_ok_iff ..).mp found
  exact (locateFile_eq_ok_iff ..).mpr
    ⟨parsed, spelled, locate_eq_ok_of_sameDirectories same located, isFile,
      mt (same.node location).mp notDirectory⟩

theorem locateFile_eq_ok_iff_of_sameDirectories
    {tree other : Tree}
    (same : SameDirectories tree other)
    (text : String) (location : Location) :
    other.locateFile text = .ok location ↔ tree.locateFile text = .ok location :=
  ⟨locateFile_eq_ok_of_sameDirectories same.symm, locateFile_eq_ok_of_sameDirectories same⟩

/-- The location of a file is the place that its path means. -/
theorem place?_of_locateFile
    {tree : Tree} {text : String} {location : Location}
    (found : tree.locateFile text = .ok location) :
    place? tree.home text = some location := by
  obtain ⟨parsed, spelled, located, -, -⟩ := (locateFile_eq_ok_iff ..).mp found
  rw [place?, spelled, eq_foldl_follow_of_walk located]
  rfl

/-- A file that a path leads to can be read. -/
theorem read_eq_ok_of_locateFile
    {tree : Tree} {text : String} {location : Location} {content : Bytes}
    (found : tree.locateFile text = .ok location)
    (holds : tree.content? location = some content) :
    tree.read text = .ok content := by
  obtain ⟨parsed, spelled, located, isFile, -⟩ := (locateFile_eq_ok_iff ..).mp found
  have node : tree.node? location = some (.file content) := by
    unfold content? at holds
    split at holds
    next stored found => rw [found, Option.some.inj holds]
    next => cases holds
  unfold read
  rw [spelled]
  dsimp only
  rw [located]
  dsimp only
  rw [node]
  simp [isFile]

/-! ## Directories on the way -/

/-- Names that lead to a directory start at one. -/
theorem node?_eq_directory_of_walk
    {tree : Tree} {names : List String} {here location : Location}
    (found : tree.walk here names = .ok location)
    (isDirectory : tree.node? location = some .directory) :
    tree.node? here = some .directory := by
  cases names with
  | nil =>
      cases found
      exact isDirectory
  | cons name rest =>
      obtain ⟨_, entered, -⟩ := (walk_cons_eq_ok_iff ..).mp found
      exact ((enter_eq_ok_iff ..).mp entered).1

/-- The names before the last one lead to a directory. -/
theorem exists_parent_of_walk
    {tree : Tree} {front : List String} {last : String} {here location : Location}
    (found : tree.walk here (front ++ [last]) = .ok location) :
    ∃ directory, tree.walk here front = .ok directory ∧
      tree.node? directory = some .directory := by
  induction front generalizing here with
  | nil =>
      obtain ⟨_, entered, -⟩ := (walk_cons_eq_ok_iff ..).mp found
      exact ⟨here, rfl, ((enter_eq_ok_iff ..).mp entered).1⟩
  | cons name rest inductionHypothesis =>
      obtain ⟨next, entered, found⟩ := (walk_cons_eq_ok_iff ..).mp found
      obtain ⟨directory, leads, isDirectory⟩ := inductionHypothesis found
      exact ⟨directory, (walk_cons_eq_ok_iff ..).mpr ⟨next, entered, leads⟩, isDirectory⟩

/-- Directories that are there need not be made. -/
theorem makeDirectories_of_walk
    {tree : Tree} {names : List String} {here location : Location}
    (found : tree.walk here names = .ok location)
    (isDirectory : tree.node? location = some .directory) :
    tree.makeDirectories here names = (tree, .ok location) := by
  induction names generalizing here with
  | nil =>
      cases found
      rfl
  | cons name rest inductionHypothesis =>
      obtain ⟨next, entered, found⟩ := (walk_cons_eq_ok_iff ..).mp found
      rw [makeDirectories, entered]
      dsimp only
      rw [node?_eq_directory_of_walk found isDirectory]
      exact inductionHypothesis found

theorem path_eq_ok_iff (text : String) (parsed : Path) :
    path text = .ok parsed ↔
      (text ≠ "" ∧ Path.isSpellable text = true) ∧ Path.parts text = parsed := by
  unfold path Path.ofText?
  by_cases spellable : text ≠ "" ∧ Path.isSpellable text = true
  · rw [if_pos spellable]
    simp [spellable]
  · rw [if_neg spellable]
    exact iff_of_false nofun fun spelled => spellable spelled.1

theorem entryPath_eq_ok_iff (text : String) (parsed : Path) :
    entryPath text = .ok parsed ↔
      (text ≠ "" ∧ (Path.parts text).names.dropLast.all Path.isSpellable = true) ∧
        Path.parts text = parsed := by
  unfold entryPath Path.ofEntry?
  by_cases spellable :
      text ≠ "" ∧ (Path.parts text).names.dropLast.all Path.isSpellable = true
  · rw [if_pos spellable]
    simp [spellable]
  · rw [if_neg spellable]
    exact iff_of_false nofun fun spelled => spellable spelled.1

/-- The names of a path have no other letters than its text. -/
theorem isSpellable_of_mem_names
    {text name : String}
    (spellable : Path.isSpellable text = true)
    (present : name ∈ (Path.parts text).names) :
    Path.isSpellable name = true := by
  obtain ⟨piece, isPiece, rfl⟩ := List.mem_map.mp (List.mem_filter.mp present).1
  simp only [Path.isSpellable, String.toList_ofList, Bool.not_eq_true', List.contains_eq_mem,
    decide_eq_false_iff_not] at spellable ⊢
  exact fun inside => spellable (Text.mem_of_mem_pieces isPiece inside)

/-- A path that a text spells is spelled as far as its last name. -/
theorem entryPath_of_path
    {text : String} {parsed : Path}
    (spelled : path text = .ok parsed) :
    entryPath text = .ok parsed := by
  obtain ⟨⟨named, spellable⟩, same⟩ := (path_eq_ok_iff ..).mp spelled
  refine (entryPath_eq_ok_iff ..).mpr ⟨⟨named, List.all_eq_true.mpr fun name present => ?_⟩, same⟩
  exact isSpellable_of_mem_names spellable (List.dropLast_subset _ present)

/-- A path that is not spelled like one of a directory has a last name. -/
theorem names_ne_nil_of_path
    {text : String} {parsed : Path}
    (spelled : path text = .ok parsed)
    (isFile : parsed.isDirectory = false) :
    parsed.names ≠ [] := by
  obtain ⟨-, rfl⟩ := (path_eq_ok_iff ..).mp spelled
  simp only [Path.parts, Bool.not_eq_false', Option.any_eq_true] at isFile
  obtain ⟨piece, isLast, isStep⟩ := isFile
  exact List.ne_nil_of_mem (List.mem_filter.mpr ⟨List.mem_of_getLast? isLast, isStep⟩)

/-- The directory of a file that a path leads to need not be made. -/
theorem exists_makeParent_of_locateFile
    {tree : Tree} {text : String} {location : Location}
    (found : tree.locateFile text = .ok location) :
    ∃ parsed directory, path text = .ok parsed ∧
      tree.makeParent parsed = (tree, .ok directory) ∧
      tree.node? directory = some .directory := by
  obtain ⟨parsed, spelled, located, isFile, -⟩ := (locateFile_eq_ok_iff ..).mp found
  rw [locate, ← List.dropLast_append_getLast (names_ne_nil_of_path spelled isFile)] at located
  obtain ⟨directory, leads, isDirectory⟩ := exists_parent_of_walk located
  exact ⟨parsed, directory, spelled, makeDirectories_of_walk leads isDirectory, isDirectory⟩

/-! ## Paths that lead to nothing -/

/-- Entering a name leads into nothing exactly if nothing is where it is entered. -/
theorem enter_eq_notFound_iff (tree : Tree) (here : Location) (name : String) :
    tree.enter here name = .error .notFound ↔ tree.node? here = none := by
  unfold enter
  cases tree.node? here with
  | none => simp
  | some node => cases node <;> grind

/-- Nothing is at the path that a text spells: from the front on, some of its names lead to a place
where nothing is. -/
def IsMissing (tree : Tree) (text : String) : Prop :=
  text = "" ∨
    ∃ parsed front location, path text = .ok parsed ∧ front <+: parsed.names ∧
      tree.walk (tree.start parsed) front = .ok location ∧ tree.node? location = none

/-- Names lead into nothing exactly if some of them do, from the front on. -/
theorem walk_missing_iff (tree : Tree) (here : Location) (names : List String) :
    (tree.walk here names = .error .notFound ∨
        ∃ location, tree.walk here names = .ok location ∧ tree.node? location = none) ↔
      ∃ front location, front <+: names ∧ tree.walk here front = .ok location ∧
        tree.node? location = none := by
  induction names generalizing here with
  | nil => simp [walk]
  | cons name rest inductionHypothesis =>
      rw [walk]
      by_cases absent : tree.node? here = none
      · rw [(enter_eq_notFound_iff ..).mpr absent]
        exact iff_of_true (Or.inl rfl) ⟨[], here, List.nil_prefix, rfl, absent⟩
      · have front_iff : (∃ front location, front <+: name :: rest ∧
            tree.walk here front = .ok location ∧ tree.node? location = none) ↔
              ∃ front location, front <+: rest ∧
                tree.walk here (name :: front) = .ok location ∧ tree.node? location = none := by
          constructor
          · rintro ⟨front, location, leads, walked, nothing⟩
            cases front with
            | nil =>
                cases walked
                exact absurd nothing absent
            | cons first front =>
                obtain ⟨rfl, inside⟩ := List.cons_prefix_cons.mp leads
                exact ⟨front, location, inside, walked, nothing⟩
          · rintro ⟨front, location, inside, found⟩
            exact ⟨name :: front, location, List.cons_prefix_cons.mpr ⟨rfl, inside⟩, found⟩
        rw [front_iff]
        simp only [walk]
        cases entered : tree.enter here name with
        | error error =>
            have other : error ≠ .notFound := by
              rintro rfl
              exact absent ((enter_eq_notFound_iff ..).mp entered)
            simp [other]
        | ok next => exact inductionHypothesis next

/-- Reading finds nothing exactly if nothing is at the path. -/
theorem read_eq_notFound_iff (tree : Tree) (text : String) :
    tree.read text = .error .notFound ↔ tree.IsMissing text := by
  unfold read
  cases spelled : path text with
  | error error =>
      unfold IsMissing
      unfold path at spelled ⊢
      grind
  | ok parsed =>
      have named : text ≠ "" := by
        rintro rfl
        exact ((path_eq_ok_iff ..).mp spelled).1.1 rfl
      have leads : tree.IsMissing text ↔ ∃ front location, front <+: parsed.names ∧
          tree.walk (tree.start parsed) front = .ok location ∧ tree.node? location = none := by
        simp [IsMissing, named, spelled]
      rw [leads, ← walk_missing_iff]
      dsimp only
      unfold locate
      cases tree.walk (tree.start parsed) parsed.names with
      | error error => simp
      | ok location =>
          dsimp only
          cases found : tree.node? location with
          | none => simp [found]
          | some node =>
              cases node with
              | directory => simp [found]
              | file content => cases parsed.isDirectory <;> simp [found]

/-! ## Contents -/

/-- Putting a file somewhere changes the content there and nowhere else. -/
theorem content?_insert_file
    {tree : Tree} {location : Location}
    (notRoot : location ≠ [])
    (content : Bytes) (other : Location) :
    (tree.insert location (.file content)).content? other =
      if location = other then some content else tree.content? other := by
  unfold content?
  rw [node?_insert tree location other _ notRoot]
  by_cases same : location = other
  · rw [if_pos same, if_pos same]
  · rw [if_neg same, if_neg same]

/-- Taking something away changes the content there and nowhere else. -/
theorem content?_erase
    {tree : Tree} {location : Location}
    (notRoot : location ≠ [])
    (other : Location) :
    (tree.erase location).content? other =
      if location = other then none else tree.content? other := by
  unfold content?
  rw [node?_erase tree location other notRoot]
  by_cases same : location = other
  · rw [if_pos same, if_pos same]
  · rw [if_neg same, if_neg same]

/-- Appending to a file grows its content and leaves all else alone. -/
theorem append_spec
    {tree grown : Tree} {text : String} {content : Bytes}
    (appended : tree.append text content = .ok grown) :
    SameDirectories tree grown ∧
      ∃ location, tree.locateFile text = .ok location ∧
        ∀ other, grown.content? other =
          if location = other then some ((tree.content? location).getD [] ++ content)
          else tree.content? other := by
  unfold append at appended
  cases found : tree.locateFile text with
  | error error =>
      rw [found] at appended
      cases appended
  | ok location =>
      rw [found] at appended
      cases appended
      obtain ⟨_, _, _, _, notDirectory⟩ := (locateFile_eq_ok_iff ..).mp found
      exact ⟨sameDirectories_insert_file notDirectory _, location, rfl,
        content?_insert_file (ne_nil_of_node?_ne_directory notDirectory) _⟩

/-! ## Temporary files -/

theorem temporaryName_injective : Function.Injective temporaryName := by
  intro left right equal
  apply Nat.repr_injective
  simpa [temporaryName] using equal

/-- A directory has room for a temporary file: there are more names than entries. -/
theorem exists_unusedLocation? (tree : Tree) (directory : Location) :
    ∃ location, tree.unusedLocation? directory = some location ∧
      tree.node? location = none := by
  let candidates := (List.range (tree.nodes.size + 1)).map fun number =>
    directory ++ [temporaryName number]
  have distinct : candidates.Nodup := by
    apply List.Nodup.map _ List.nodup_range
    intro left right equal
    apply temporaryName_injective
    simpa using equal
  have someUnused : ∃ location ∈ candidates, tree.node? location = none := by
    by_contra allUsed
    push Not at allUsed
    have contained : candidates ⊆ tree.nodes.keys := by
      intro location present
      have below : location ≠ [] := by
        obtain ⟨number, _, rfl⟩ := List.mem_map.mp present
        simp
      have used := allUsed location present
      simp only [node?, if_neg below] at used
      rw [Std.ExtTreeMap.mem_keys, Std.ExtTreeMap.mem_iff_isSome_getElem?]
      exact Option.isSome_iff_ne_none.mpr used
    have fits := (List.subperm_of_subset distinct contained).length_le
    rw [Std.ExtTreeMap.length_keys] at fits
    simp only [candidates, List.length_map, List.length_range] at fits
    omega
  have found : (tree.unusedLocation? directory).isSome = true := by
    unfold unusedLocation?
    rw [List.find?_isSome]
    obtain ⟨location, present, unused⟩ := someUnused
    exact ⟨location, present, by rw [unused]; rfl⟩
  obtain ⟨location, isUnused⟩ := Option.isSome_iff_exists.mp found
  exact ⟨location, isUnused, by simpa using List.find?_some isUnused⟩

end Tree
end Files
end Telemetry
