import Telemetry.Bytes
import Telemetry.Network.Caller
import Telemetry.Number.Reading

/-!
# HTTP messages

Requests and responses as values.  The names of headers are the same in either
letter case, and a header that is given twice counts by its first value.
-/

namespace Telemetry
namespace Http

/-- A request. -/
structure Request where
  /-- The method. -/
  method : String
  /-- The path, with a query or without. -/
  target : String
  /-- The headers in their order. -/
  headers : List (String × Bytes) := []
  /-- The body. -/
  body : Bytes := []
  /-- The address the connection came from, when it is known. -/
  peer : Option Network.Address := none

/-- A response. -/
structure Response where
  /-- The status. -/
  status : Nat
  /-- The headers. -/
  headers : List (String × String)
  /-- The body. -/
  body : Bytes

/-- A letter in lower case, when it is one of the English alphabet. -/
def lowerLetter (letter : Char) : Char :=
  if 'A' ≤ letter ∧ letter ≤ 'Z' then Char.ofNat (letter.toNat + 32) else letter

/-- Whether two texts are equal up to the case of English letters. -/
def sameIgnoringCase (left right : String) : Bool :=
  left.toList.map lowerLetter == right.toList.map lowerLetter

/-- Whether a byte may occur in the value of a header that is read as text. -/
def isTextByte (byte : UInt8) : Bool :=
  (32 ≤ byte && byte ≤ 126) || byte == 9

/-- The text of the value of a header. -/
def valueText? (value : Bytes) : Option String :=
  if value.all isTextByte then Bytes.text? value else none

/-- The first value of a header as text. -/
def findHeader? (headers : List (String × Bytes)) (name : String) : Option String :=
  match headers.find? fun header => sameIgnoringCase header.1 name with
  | some header => valueText? header.2
  | none => none

namespace Request

/-- The first value of a header as text. -/
def header? (request : Request) (name : String) : Option String :=
  findHeader? request.headers name

/-- The length of the body that the request announces. -/
def declaredLength? (request : Request) : Option Nat :=
  (request.header? "content-length").bind fun text => readNatural? UInt64.size text.toList

/-- The address the request is attributed to. -/
def caller (request : Request) : String :=
  Network.callerAddress (request.header? "x-forwarded-for") (request.header? "x-real-ip")
    request.peer

/-- The path of the target: what comes before a query or a fragment. -/
def path (request : Request) : List Char :=
  request.target.toList.takeWhile fun letter => letter != '?' && letter != '#'

end Request

namespace Response

/-- A response with a body of a type; it says how long the body is. -/
def withBody (status : Nat) (type : String) (body : Bytes) : Response :=
  { status, body
    headers := [("content-length", toString body.length), ("content-type", type)] }

/-- The type of plain text. -/
def plainType : String := "text/plain; charset=utf-8"

/-- A response with a plain text. -/
def text (status : Nat) (message : String) : Response :=
  withBody status plainType (Bytes.ofText message)

/-- A response without a body. -/
def bare (status : Nat) : Response :=
  { status, headers := [("content-length", "0")], body := [] }

/-- A response with one more header. -/
def withHeader (response : Response) (name value : String) : Response :=
  { response with headers := response.headers ++ [(name, value)] }

/-- The value of a header. -/
def header? (response : Response) (name : String) : Option String :=
  response.headers.lookup name

/-- The response to a request for the headers alone. -/
def withoutBody (response : Response) : Response :=
  { response with body := [] }

end Response
end Http
end Telemetry
