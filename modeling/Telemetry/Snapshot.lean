import Telemetry.Files.Tree
import Telemetry.Metric.Json
import Telemetry.Store

/-!
# Snapshots of a store

A snapshot is a file with the JSON array of all metrics.  It is written to a
temporary file beside its place and then moved there, so a reader sees the old
or the new snapshot and never a part of one.
-/

namespace Telemetry

/-- Why a snapshot could not be read or written. -/
inductive SnapshotError where
  /-- No file is there. -/
  | notFound (path : String)
  /-- A file operation failed. -/
  | file (error : Files.FileError)
  /-- The content is not a list of metrics. -/
  | json (fault : Json.Fault)

namespace Snapshot

/-- The wording of a refused content. -/
def refusal (fault : Json.Fault) : String :=
  "snapshot is not valid JSON: " ++ fault.message

/-- The wording of a missing file. -/
def missing (path : String) : String :=
  "snapshot file not found: " ++ path

/-- The content of a snapshot. -/
def content (metrics : List Metric) : Bytes :=
  Bytes.ofText (Metric.listJson metrics)

/-- The stages of saving at which the device may fail. -/
inductive Stage where
  /-- Making the directory. -/
  | makeDirectory
  /-- Making the temporary file. -/
  | makeTemporary
  /-- Writing the temporary file. -/
  | writeTemporary
  /-- Waiting until the content is safe. -/
  | flush
  /-- Moving the temporary file to its place. -/
  | move
deriving DecidableEq

/-- Fills a temporary file and moves it to its place. -/
def fill (fails : Stage -> Bool) (tree : Files.Tree) (temporary : Files.Location) (path : String)
    (body : Bytes) : Except Files.FileError Files.Tree :=
  if fails .writeTemporary || fails .flush || fails .move then .error .device
  else (tree.insert temporary (.file body)).moveTo temporary path

/--
Writes a body in a directory and moves it to its place; a failure takes the
temporary file away.
-/
def replace (fails : Stage -> Bool) (tree : Files.Tree) (directory : Files.Location)
    (path : String) (body : Bytes) : Files.Tree × Except Files.FileError Unit :=
  match tree.node? directory, tree.unusedLocation? directory with
  | some .directory, some temporary =>
      if fails .makeTemporary then (tree, .error .device)
      else
        let opened := tree.insert temporary (.file [])
        match fill fails opened temporary path body with
        | .ok saved => (saved, .ok ())
        | .error error => (opened.erase temporary, .error error)
  | _, _ => (tree, .error .notDirectory)

/-- Saves metrics on a device that may fail. -/
def saveWith (fails : Stage -> Bool) (tree : Files.Tree) (path : String)
    (metrics : List Metric) : Files.Tree × Except Files.FileError Unit :=
  match Files.Tree.entryPath path with
  | .error error => (tree, .error error)
  | .ok parsed =>
      match tree.makeParent parsed with
      | (made, .error error) => (made, .error error)
      | (made, .ok directory) =>
          if fails .makeDirectory then (made, .error .device)
          else replace fails made directory path (content metrics)

/-- Saves metrics. -/
def save (tree : Files.Tree) (path : String) (metrics : List Metric) :
    Files.Tree × Except Files.FileError Unit :=
  saveWith (fun _ => false) tree path metrics

/-- Saves metrics and ignores a failure. -/
def saveOrKeep (tree : Files.Tree) (path : String) (metrics : List Metric) : Files.Tree :=
  (save tree path metrics).1

/-- The updates of the metrics that are updates. -/
def validUpdates (metrics : List Metric) : List Update :=
  metrics.filterMap fun metric => metric.toUpdate.toOption

/-- Applies the updates of a snapshot to a store and counts them; other entries are skipped. -/
def load (tree : Files.Tree) (path : String) (store : Store) :
    Except SnapshotError (Nat × Store) :=
  match tree.read path with
  | .error .notFound => .error (.notFound path)
  | .error error => .error (.file error)
  | .ok body =>
      match Metric.listOfJson body with
      | .error fault => .error (.json fault)
      | .ok metrics =>
          let updates := validUpdates metrics
          .ok (updates.length, store.applyAll updates)

/-- The store with the updates of a snapshot, or as it is when there is no readable snapshot. -/
def restore (tree : Files.Tree) (path : String) (store : Store) : Store :=
  match load tree path store with
  | .ok (_, loaded) => loaded
  | .error _ => store

end Snapshot
end Telemetry
