import Telemetry.Bytes
import Telemetry.Number.Reading
import Telemetry.Settings.Error
import Telemetry.Text.Blank
import Telemetry.TimeSpan

/-!
# Settings from the environment

A variable that is blank, or that is no UTF-8 text, counts as absent.  Texts
keep the blanks around them; numbers are read without them.
-/

namespace Telemetry
namespace Settings

/-- The bytes of each variable that is set. -/
abbrev Environment := String -> Option Bytes

/-- The text, unless it is blank. -/
def notBlank (text : Option String) : Option String :=
  text.filter fun text => !Text.isAllBlank text

namespace Environment

/-- The text of a variable. -/
def text? (environment : Environment) (name : String) : Option String :=
  notBlank ((environment name).bind Bytes.text?)

/-- The variable's value, when `read?` accepts its text without the blanks around it. -/
def value? (environment : Environment) (name : String) (read? : List Char -> Option α) :
    Except SettingsError (Option α) :=
  match environment.text? name with
  | none => .ok none
  | some text =>
      match read? (Text.trimLetters text.toList) with
      | some value => .ok (some value)
      | none => .error (.invalid name text)

/-- A variable that holds a whole number of seconds. -/
def seconds? (environment : Environment) (name : String) :
    Except SettingsError (Option TimeSpan) :=
  environment.value? name fun letters => (readNatural? UInt64.size letters).map TimeSpan.ofSeconds

end Environment
end Settings
end Telemetry
