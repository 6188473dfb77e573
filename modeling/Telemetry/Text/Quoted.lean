import Telemetry.Text.Unshown

/-!
# Quoted texts

A text in double quotes, as messages show it: quotes and backslashes are
escaped, and characters without a shape of their own are written by number.
-/

namespace Telemetry
namespace Text

/-- The lower-case hexadecimal spelling of a number without leading zeros. -/
def hexNumber (value : Nat) : List Char :=
  Nat.toDigits 16 value

/-- The spelling of one character inside quotes. -/
def quotedLetter (letter : Char) : List Char :=
  if letter = '"' then ['\\', '"']
  else if letter = '\\' then ['\\', '\\']
  else if letter = '\n' then ['\\', 'n']
  else if letter = '\t' then ['\\', 't']
  else if letter = '\r' then ['\\', 'r']
  else if letter.toNat = 0 then ['\\', '0']
  else if isUnshown letter then '\\' :: 'u' :: '\x7b' :: hexNumber letter.toNat ++ ['\x7d']
  else [letter]

/-- A text in double quotes. -/
def quoted (text : String) : String :=
  String.ofList ('"' :: text.toList.flatMap quotedLetter ++ ['"'])

end Text
end Telemetry
