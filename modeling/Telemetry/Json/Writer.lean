import Telemetry.Json.Style

/-!
# Writing JSON

Texts are written with as few escapes as JSON allows; objects keep the order
of their members and have no blanks.
-/

namespace Telemetry
namespace Json

/-- A lower-case hexadecimal digit. -/
def hexLetter (value : Nat) : Char :=
  if value < 10 then Char.ofNat (48 + value) else Char.ofNat (87 + value)

/-- The spelling of one character inside a JSON string. -/
def escapedLetter (letter : Char) : List Char :=
  if letter = '"' then ['\\', '"']
  else if letter = '\\' then ['\\', '\\']
  else if letter.toNat = 8 then ['\\', 'b']
  else if letter.toNat = 12 then ['\\', 'f']
  else if letter = '\n' then ['\\', 'n']
  else if letter = '\r' then ['\\', 'r']
  else if letter = '\t' then ['\\', 't']
  else if letter.toNat < 32 then
    ['\\', 'u', '0', '0', hexLetter (letter.toNat / 16), hexLetter (letter.toNat % 16)]
  else [letter]

/-- A JSON string. -/
def textText (text : String) : String :=
  String.ofList ('"' :: text.toList.flatMap escapedLetter ++ ['"'])

/-- A JSON array of written elements. -/
def listText (elements : List String) : String :=
  "[" ++ String.intercalate "," elements ++ "]"

/-- A JSON object of named, written members. -/
def objectText (members : List (String × String)) : String :=
  "\x7b" ++ String.intercalate "," (members.map fun member => textText member.1 ++ ":" ++ member.2)
    ++ "\x7d"

end Json
end Telemetry
