import Telemetry.Sealing.Base64

/-!
# Labelled key texts

The textual encoding of RFC 7468: a labelled first line, lines of sixty-four
base64 letters with a shorter last one, and a last line with the same label.
Text before the first line is ignored.
-/

namespace Telemetry
namespace Sealing
namespace Pem

/-- The dashes around a label. -/
def dashes : Bytes := Bytes.ofText "-----"

/-- The start of the first line. -/
def opening : Bytes := Bytes.ofText "-----BEGIN "

/-- The start of the last line. -/
def closing : Bytes := Bytes.ofText "-----END "

/-- The length of lines. -/
def lineWidth : Nat := 64

/-- The bytes after a line end, if one comes first. -/
def afterLineEnd? : Bytes -> Option Bytes
  | 0x0a :: rest => some rest
  | 0x0d :: 0x0a :: rest => some rest
  | 0x0d :: rest => some rest
  | _ => none

/-- The bytes before a line end, if one comes last. -/
def beforeLineEnd? (bytes : Bytes) : Option Bytes :=
  match bytes.reverse with
  | 0x0a :: 0x0d :: rest => some rest.reverse
  | 0x0a :: rest => some rest.reverse
  | 0x0d :: rest => some rest.reverse
  | _ => none

/-- The bytes after a given start. -/
def after? (start bytes : Bytes) : Option Bytes :=
  if start.isPrefixOf bytes then some (bytes.drop start.length) else none

/-- The bytes before a given end. -/
def before? (ending bytes : Bytes) : Option Bytes :=
  if ending.isSuffixOf bytes then some (bytes.take (bytes.length - ending.length)) else none

/-- The text from its first labelled line on; a zero byte before it is refused. -/
def skipPreamble : Bytes -> Option Bytes
  | [] => none
  | byte :: rest =>
      if opening.isPrefixOf (byte :: rest) then some (byte :: rest)
      else skipLines (byte :: rest)
where
  /-- The text from the first line that opens, looking at line starts only. -/
  skipLines : Bytes -> Option Bytes
    | [] => none
    | byte :: rest =>
        if byte = 0 then none
        else if byte = 0x0a ∧ opening.isPrefixOf rest then some rest
        else skipLines rest

/-- Joins lines of full width and a last one; at most `fuel` lines are read. -/
def joinLines : (fuel : Nat) -> (done : Bytes) -> Bytes -> Option Bytes
  | 0, _, _ => none
  | fuel + 1, done, text =>
      match text.drop lineWidth with
      | [] => some (done ++ (beforeLineEnd? text).getD text)
      | next :: rest =>
          match afterLineEnd? (next :: rest) with
          | some after => joinLines fuel (done ++ text.take lineWidth) after
          | none => none

/-- The bytes that a text with a given label carries. -/
def decode? (label : String) (text : Bytes) : Option Bytes := do
  let name := Bytes.ofText label
  let opened ← after? opening (← skipPreamble text)
  let afterLabel ← after? (name ++ dashes) opened
  let body ← afterLineEnd? afterLabel
  let unclosed ← before? dashes ((beforeLineEnd? body).getD body)
  let letters ← beforeLineEnd? (← before? closing (← before? name unclosed))
  ofBase64? (← joinLines (letters.length + 1) [] letters)

end Pem
end Sealing
end Telemetry
