import Telemetry.Json.Record
import Telemetry.Settings.Environment

/-!
# The file of settings

The variable `CONFIG` names a JSON file with settings.  Every setting may be
missing from it.
-/

namespace Telemetry
namespace Settings

/-- A setting that a file may hold; `null` is as good as none. -/
def fileField (name : String) (read : Json.Reader α) (get : draft -> Option (Option α))
    (set : draft -> Option α -> draft) : Json.Field draft :=
  Json.Field.of name true (Json.optional read) get fun draft value => set draft value

/-- Reads the file that the environment names; without one, every setting is missing. -/
def readFile (shape : Json.Shape draft file) (missing : file) (environment : Environment)
    (files : Files.Tree) : Except SettingsError file :=
  match environment.text? "CONFIG" with
  | none => .ok missing
  | some path =>
      match files.read path with
      | .error error => .error (.unreadable path error)
      | .ok content => (Json.decode shape.read content).mapError (.malformed path)

/-- A span in a file, in words of amounts and units. -/
def fileSpan? (name : String) : Option String -> Except SettingsError (Option TimeSpan)
  | none => .ok none
  | some text =>
      match TimeSpan.read? text with
      | some span => .ok (some span)
      | none => .error (.invalid name text)

end Settings
end Telemetry
