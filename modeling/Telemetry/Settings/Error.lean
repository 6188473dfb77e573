import Telemetry.Files.Tree
import Telemetry.Json.Fault
import Telemetry.Text.Quoted

/-!
# Unusable settings
-/

namespace Telemetry

/-- Why no settings could be made. -/
inductive SettingsError where
  /-- A setting has a value that it cannot have. -/
  | invalid (name value : String)
  /-- The file of settings cannot be read. -/
  | unreadable (path : String) (error : Files.FileError)
  /-- The file of settings has not the form that it needs. -/
  | malformed (path : String) (fault : Json.Fault)

/-- The wording of an error. -/
def SettingsError.message : SettingsError -> String
  | .invalid name value => "invalid value " ++ Text.quoted value ++ " for " ++ name
  | .unreadable path _ => "failed to read config file " ++ path
  | .malformed path fault => "failed to parse config file " ++ path ++ ": " ++ fault.message

end Telemetry
