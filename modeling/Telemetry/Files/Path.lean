import Telemetry.Text.Pieces

/-!
# Paths

A path is a row of names with slashes between them.  Empty names and `.` are
left out, and `..` is kept, because it means the parent of whatever comes
before it.
-/

namespace Telemetry
namespace Files

/-- A path in its parts. -/
structure Path where
  /-- Whether the path starts at the root. -/
  isAbsolute : Bool
  /-- The names in order; none is empty or `.`. -/
  names : List String
  /-- Whether the path is spelled so that it can only be a directory. -/
  isDirectory : Bool
deriving DecidableEq

namespace Path

/-- Whether a piece of a path moves to another place. -/
def isStep (piece : String) : Bool :=
  piece != "" && piece != "."

/-- The parts of a text that spells a path. -/
def parts (text : String) : Path :=
  let pieces := Text.split '/' text
  { isAbsolute := text.toList.head? == some '/'
    names := pieces.filter isStep
    isDirectory := !(pieces.getLast?.any isStep) }

/-- Whether a text can stand in a path; one with the character NUL cannot. -/
def isSpellable (text : String) : Bool :=
  !text.toList.contains '\x00'

/-- The path that a text spells; the empty text spells no path. -/
def ofText? (text : String) : Option Path :=
  if text ≠ "" ∧ isSpellable text then some (parts text) else none

/--
The path that a text spells as far as its last name, which may be one that no
file can have; the directory that this name is in can be used all the same.
-/
def ofEntry? (text : String) : Option Path :=
  if text ≠ "" ∧ (parts text).names.dropLast.all isSpellable then some (parts text) else none

end Path
end Files
end Telemetry
