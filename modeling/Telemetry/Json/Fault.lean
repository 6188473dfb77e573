import Telemetry.Number.Format
import Telemetry.Text.Quoted
import Telemetry.Json.Style

/-!
# What can be wrong with a JSON text

Every refusal has one cause; `Fault.message` is the wording of it.
-/

namespace Telemetry
namespace Json

/-- What was found where a value of another type was expected. -/
inductive Found where
  /-- The word `null`. -/
  | null
  /-- The words `true` and `false`. -/
  | flag (value : Bool)
  /-- A whole number. -/
  | whole (value : Int)
  /-- A number with a point or an exponent, or one too large to be whole. -/
  | real (value : Binary64)
  /-- A text. -/
  | text (value : String)
  /-- An array. -/
  | list
  /-- An object. -/
  | object

/-- Why a JSON text was refused. -/
inductive Fault where
  /-- The text ends where a value has to follow. -/
  | endOfValue
  /-- The text ends inside an array. -/
  | endOfList
  /-- The text ends inside an object. -/
  | endOfObject
  /-- The text ends inside a string. -/
  | endOfText
  /-- No value starts with this character. -/
  | expectedValue
  /-- A word starts like `true`, `false` or `null` and goes on otherwise. -/
  | expectedWord
  /-- An array's element is followed by neither a comma nor the end. -/
  | expectedListEnd
  /-- An object's member is followed by neither a comma nor the end. -/
  | expectedObjectEnd
  /-- A member's name is not followed by a colon. -/
  | expectedColon
  /-- A member does not start with a string. -/
  | keyNotText
  /-- Something follows the value. -/
  | trailingCharacters
  /-- A comma stands before the end of an array or object. -/
  | trailingComma
  /-- The digits do not form a number. -/
  | invalidNumber
  /-- The number is too large. -/
  | numberOutOfRange
  /-- An escape that strings do not know. -/
  | invalidEscape
  /-- A raw control character inside a string. -/
  | controlCharacter
  /-- The bytes of a string are not UTF-8. -/
  | invalidCodePoint
  /-- Half of a surrogate pair. -/
  | loneSurrogate
  /-- The first half of a surrogate pair without an escape after it. -/
  | endOfEscape
  /-- A value of the wrong type. -/
  | wrongType (found : Found) (expected : String)
  /-- A value of the right type that does not fit. -/
  | wrongValue (found : Found) (expected : String)
  /-- An array with too few elements for a record. -/
  | wrongLength (length : Nat) (expected : String)
  /-- A record without one of its fields. -/
  | missingField (name : String)
  /-- A record that gives a field twice. -/
  | duplicateField (name : String)

/-- How a found value is named in a message. -/
def Found.describe : Found -> String
  | .null => "null"
  | .flag true => "boolean \x60true\x60"
  | .flag false => "boolean \x60false\x60"
  | .whole value => "integer \x60" ++ toString value ++ "\x60"
  | .real value => "floating point \x60" ++ numberText value ++ "\x60"
  | .text value => "string " ++ Text.quoted value
  | .list => "sequence"
  | .object => "map"

/-- The wording of a refusal. -/
def Fault.message : Fault -> String
  | .endOfValue => "EOF while parsing a value"
  | .endOfList => "EOF while parsing a list"
  | .endOfObject => "EOF while parsing an object"
  | .endOfText => "EOF while parsing a string"
  | .expectedValue => "expected value"
  | .expectedWord => "expected ident"
  | .expectedListEnd => "expected \x60,\x60 or \x60]\x60"
  | .expectedObjectEnd => "expected \x60,\x60 or \x60\x7d\x60"
  | .expectedColon => "expected \x60:\x60"
  | .keyNotText => "key must be a string"
  | .trailingCharacters => "trailing characters"
  | .trailingComma => "trailing comma"
  | .invalidNumber => "invalid number"
  | .numberOutOfRange => "number out of range"
  | .invalidEscape => "invalid escape"
  | .controlCharacter => "control character (\\u0000-\\u001F) found while parsing a string"
  | .invalidCodePoint => "invalid unicode code point"
  | .loneSurrogate => "lone leading surrogate in hex escape"
  | .endOfEscape => "unexpected end of hex escape"
  | .wrongType found expected => "invalid type: " ++ found.describe ++ ", expected " ++ expected
  | .wrongValue found expected => "invalid value: " ++ found.describe ++ ", expected " ++ expected
  | .wrongLength length expected =>
      "invalid length " ++ toString length ++ ", expected " ++ expected
  | .missingField name => "missing field \x60" ++ name ++ "\x60"
  | .duplicateField name => "duplicate field \x60" ++ name ++ "\x60"

end Json
end Telemetry
