import Std.Data.ExtTreeMap
import Telemetry.Bytes
import Telemetry.Files.Path

/-!
# A tree of files

Files and directories by their location, which is the row of names from the
root.  Relative paths start at the home directory.  Every operation says what
it found or why it could not be done, and leaves the tree alone when it fails.
-/

namespace Telemetry
namespace Files

/-- What is at a location. -/
inductive Node where
  /-- A file with its content. -/
  | file (content : Bytes)
  /-- A directory. -/
  | directory
deriving DecidableEq

/-- A row of names from the root. -/
abbrev Location := List String

/-- Why an operation could not be done. -/
inductive FileError where
  /-- Nothing is there. -/
  | notFound
  /-- A file is where a directory is needed. -/
  | notDirectory
  /-- A directory is where a file is needed. -/
  | isDirectory
  /-- The path has a name that no file can have. -/
  | badName
  /-- The content is no text. -/
  | notText
  /-- The device failed. -/
  | device
deriving DecidableEq

/-- The files and directories below a root. -/
structure Tree where
  /-- What is at each location; the root is not among them. -/
  nodes : Std.ExtTreeMap Location Node := ∅
  /-- Where relative paths start. -/
  home : Location := []

namespace Tree

/-- The tree with nothing but an empty home directory. -/
def empty : Tree where
  nodes := (∅ : Std.ExtTreeMap Location Node).insert ["home"] .directory
  home := ["home"]

/-- What is at a location; the root is a directory. -/
def node? (tree : Tree) (location : Location) : Option Node :=
  if location = [] then some .directory else tree.nodes[location]?

/-- The content of the file at a location. -/
def content? (tree : Tree) (location : Location) : Option Bytes :=
  match tree.node? location with
  | some (.file content) => some content
  | _ => none

/-- Puts something at a location. -/
def insert (tree : Tree) (location : Location) (node : Node) : Tree :=
  { tree with nodes := tree.nodes.insert location node }

/-- Takes away what is at a location. -/
def erase (tree : Tree) (location : Location) : Tree :=
  { tree with nodes := tree.nodes.erase location }

theorem node?_insert (tree : Tree) (location other : Location) (node : Node)
    (below : location ≠ []) :
    (tree.insert location node).node? other =
      if location = other then some node else tree.node? other := by
  unfold node? insert
  by_cases same : location = other
  · subst same
    simp [below]
  · by_cases root : other = [] <;>
      simp [root, same, below, Std.ExtTreeMap.getElem?_insert]

theorem node?_erase (tree : Tree) (location other : Location) (below : location ≠ []) :
    (tree.erase location).node? other =
      if location = other then none else tree.node? other := by
  unfold node? erase
  by_cases same : location = other
  · subst same
    simp [below]
  · by_cases root : other = [] <;>
      simp [root, same, below, Std.ExtTreeMap.getElem?_erase]

/-- The most bytes in a name. -/
def nameLimit : Nat := 255

/-- The location that a name leads to from a directory. -/
def enter (tree : Tree) (here : Location) (name : String) : Except FileError Location :=
  match tree.node? here with
  | none => .error .notFound
  | some (.file _) => .error .notDirectory
  | some .directory =>
      if name = ".." then .ok here.dropLast
      else if nameLimit < name.utf8ByteSize then .error .badName
      else .ok (here ++ [name])

/-- The location that names lead to; everything before it is a directory. -/
def walk (tree : Tree) (here : Location) : List String -> Except FileError Location
  | [] => .ok here
  | name :: rest =>
      match tree.enter here name with
      | .error error => .error error
      | .ok next => tree.walk next rest

/-- Where the names of a path start. -/
def start (tree : Tree) (path : Path) : Location :=
  if path.isAbsolute then [] else tree.home

/-- The location of a path. -/
def locate (tree : Tree) (path : Path) : Except FileError Location :=
  tree.walk (tree.start path) path.names

/-- The path of a text, which has to spell one. -/
def path (text : String) : Except FileError Path :=
  match Path.ofText? text with
  | some path => .ok path
  | none => .error (if text = "" then .notFound else .badName)

/-- The path of a text, which has to spell one as far as its last name. -/
def entryPath (text : String) : Except FileError Path :=
  match Path.ofEntry? text with
  | some path => .ok path
  | none => .error (if text = "" then .notFound else .badName)

/-- The location of a file by the text of its path; nothing needs to be there yet. -/
def locateFile (tree : Tree) (text : String) : Except FileError Location :=
  match path text with
  | .error error => .error error
  | .ok path =>
      match tree.locate path with
      | .error error => .error error
      | .ok location =>
          match tree.node? location with
          | some .directory => .error .isDirectory
          | some (.file _) => if path.isDirectory then .error .notDirectory else .ok location
          | none => if path.isDirectory then .error .notDirectory else .ok location

/-- The content of a file. -/
def read (tree : Tree) (text : String) : Except FileError Bytes :=
  match path text with
  | .error error => .error error
  | .ok path =>
      match tree.locate path with
      | .error error => .error error
      | .ok location =>
          match tree.node? location with
          | none => .error .notFound
          | some .directory => .error .isDirectory
          | some (.file content) =>
              if path.isDirectory then .error .notDirectory else .ok content

/-- The text in a file. -/
def readText (tree : Tree) (text : String) : Except FileError String :=
  match tree.read text with
  | .error error => .error error
  | .ok content =>
      match Bytes.text? content with
      | some text => .ok text
      | none => .error .notText

/-- Replaces the content of a file, which is made when it is missing. -/
def write (tree : Tree) (text : String) (content : Bytes) : Except FileError Tree :=
  (tree.locateFile text).map fun location => tree.insert location (.file content)

/-- Appends to a file, which is made when it is missing. -/
def append (tree : Tree) (text : String) (content : Bytes) : Except FileError Tree :=
  (tree.locateFile text).map fun location =>
    tree.insert location (.file ((tree.content? location).getD [] ++ content))

/-- Takes a file away. -/
def remove (tree : Tree) (text : String) : Except FileError Tree :=
  match tree.locateFile text with
  | .error error => .error error
  | .ok location =>
      match tree.node? location with
      | none => .error .notFound
      | some _ => .ok (tree.erase location)

/--
Makes the directories that names lead through, and keeps those that were made
before a failure.
-/
def makeDirectories (tree : Tree) (here : Location) :
    List String -> Tree × Except FileError Location
  | [] => (tree, .ok here)
  | name :: rest =>
      match tree.enter here name with
      | .error error => (tree, .error error)
      | .ok next =>
          match tree.node? next with
          | none => (tree.insert next .directory).makeDirectories next rest
          | some .directory => tree.makeDirectories next rest
          | some (.file _) => (tree, .error .notDirectory)

/-- Makes the directories of a path. -/
def makeDirectory (tree : Tree) (text : String) : Tree × Except FileError Location :=
  match path text with
  | .error error => (tree, .error error)
  | .ok path => tree.makeDirectories (tree.start path) path.names

/-- Makes the directories that the last name of a path is in. -/
def makeParent (tree : Tree) (path : Path) : Tree × Except FileError Location :=
  tree.makeDirectories (tree.start path) path.names.dropLast

/-- The tree with the directories that the last name of a path is in, as far as they can be made. -/
def makeParentOf (tree : Tree) (text : String) : Tree :=
  match entryPath text with
  | .error _ => tree
  | .ok path => (tree.makeParent path).1

/-- The name of an entry of a directory, when a location is one. -/
def entryName? (directory location : Location) : Option String :=
  if location.dropLast = directory then location.getLast? else none

/-- The names in a directory, sorted. -/
def list (tree : Tree) (text : String) : Except FileError (List String) :=
  match path text with
  | .error error => .error error
  | .ok path =>
      match tree.locate path with
      | .error error => .error error
      | .ok location =>
          match tree.node? location with
          | none => .error .notFound
          | some (.file _) => .error .notDirectory
          | some .directory => .ok (tree.nodes.keys.filterMap (entryName? location))

/-- The numbered name of a temporary file. -/
def temporaryName (number : Nat) : String := ".tmp" ++ toString number

/-- A location in a directory at which nothing is. -/
def unusedLocation? (tree : Tree) (directory : Location) : Option Location :=
  ((List.range (tree.nodes.size + 1)).map fun number => directory ++ [temporaryName number]).find?
    fun location => (tree.node? location).isNone

/-- Moves the file at a location to a path and replaces a file that is there. -/
def moveTo (tree : Tree) (source : Location) (text : String) : Except FileError Tree :=
  match tree.content? source with
  | none => .error .notFound
  | some content =>
      (tree.locateFile text).map fun target =>
        (tree.erase source).insert target (.file content)

end Tree
end Files
end Telemetry
