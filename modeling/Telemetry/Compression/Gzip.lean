import Telemetry.Compression.Crc32
import Telemetry.Compression.Inflate
import Telemetry.Compression.Stored

/-!
# Gzip

The container of RFC 1952.  Only its first member is read.  Reading is bounded:
one byte more than the limit is asked for, and an output that has it is refused
before the checksum is looked at.
-/

namespace Telemetry
namespace Compression

/-- Why a gzip byte string was refused. -/
inductive GzipError where
  /-- The header or the trailer is cut. -/
  | cut
  /-- The first ten bytes are no header. -/
  | badHeader
  /-- A name or comment in the header has more than 65535 bytes. -/
  | longField
  /-- The compressed data ends too early. -/
  | incomplete
  /-- The compressed data contradicts its format. -/
  | corrupt
  /-- A checksum or the length is wrong. -/
  | mismatch
  /-- There is more output than the limit. -/
  | tooLarge (limit : Nat)
deriving DecidableEq

/-- The wording of a refusal. -/
def GzipError.message : GzipError -> String
  | .cut => "gzip error: unexpected end of file"
  | .badHeader => "gzip error: invalid gzip header"
  | .longField => "gzip error: gzip header field too long"
  | .incomplete => "gzip error: incomplete deflate stream"
  | .corrupt => "gzip error: corrupt deflate stream"
  | .mismatch => "gzip error: corrupt gzip stream does not have a matching checksum"
  | .tooLarge limit => "decompressed payload exceeds " ++ toString limit ++ " bytes"

namespace Gzip

/-- The header of what this library writes. -/
def header : Bytes := [0x1f, 0x8b, 8, 0, 0, 0, 0, 0, 0, 0xff]

/-- The trailer of a content: its checksum and its length, four bytes each. -/
def trailer (content : Bytes) : Bytes :=
  Bytes.ofNatLittle 4 (crc32 content) ++ Bytes.ofNatLittle 4 content.length

/-- The gzip member of a content with the blocks that were made of it. -/
def member (blocks content : Bytes) : Bytes :=
  header ++ blocks ++ trailer content

/-- A byte string as a gzip member. -/
def encode (content : Bytes) : Bytes :=
  member (storedBlocks content) content

/-- The bytes after a field that ends with a zero byte; `room` bytes may come before it. -/
def skipField : (room : Nat) -> Bytes -> Except GzipError Bytes
  | _, [] => .error .cut
  | room, byte :: rest =>
      if byte = 0 then .ok rest
      else
        match room with
        | 0 => .error .longField
        | room + 1 => skipField room rest

/-- The bytes after an extra field: its length in two bytes, then the field. -/
def skipExtra (input : Bytes) : Except GzipError Bytes :=
  if input.length < 2 then .error .cut
  else
    let length := Bytes.toNatLittle (input.take 2)
    let rest := input.drop 2
    if rest.length < length then .error .cut else .ok (rest.drop length)

/-- The bytes after the header's checksum, which covers all header bytes before it. -/
def skipHeaderChecksum (member input : Bytes) : Except GzipError Bytes :=
  if input.length < 2 then .error .cut
  else
    let covered := member.take (member.length - input.length)
    if Bytes.toNatLittle (input.take 2) = crc32 covered % 65536 then .ok (input.drop 2)
    else .error .mismatch

/-- Whether a flag of the header is set. -/
def hasFlag (flags : UInt8) (flag : UInt8) : Bool :=
  flags &&& flag != 0

/-- The bytes after the header of a member. -/
def skipHeader (member : Bytes) : Except GzipError Bytes :=
  match member with
  | first :: second :: method :: flags :: _ :: _ :: _ :: _ :: _ :: _ :: rest => do
      if first ≠ 0x1f ∨ second ≠ 0x8b ∨ method ≠ 8 ∨ hasFlag flags 0xe0 then
        throw .badHeader
      let rest ← if hasFlag flags 0x04 then skipExtra rest else pure rest
      let rest ← if hasFlag flags 0x08 then skipField 65535 rest else pure rest
      let rest ← if hasFlag flags 0x10 then skipField 65535 rest else pure rest
      if hasFlag flags 0x02 then skipHeaderChecksum member rest else pure rest
  | _ => .error .cut

/-- Output is handed over in windows of this size. -/
def windowSize : Nat := 32768

/--
How much of the output was handed over.  When the data turns out to be corrupt
the window being filled is lost with it.
-/
def handedOver (inflated : Inflated) : Nat :=
  match inflated.ending with
  | .failed .corrupt => (inflated.output.size - 1) / windowSize * windowSize
  | _ => inflated.output.size

/-- The output after which no fault can take back the byte beyond the limit. -/
def wantedFor (limit : Nat) : Nat :=
  (limit / windowSize + 1) * windowSize + 1

/-- The list of a byte array's bytes. -/
def bytesOf (array : ByteArray) : Bytes :=
  array.data.toList

/-- Checks the trailer against the content. -/
def checkTrailer (content trailer : Bytes) : Except GzipError Bytes :=
  if trailer.length < 8 then .error .cut
  else if Bytes.toNatLittle (trailer.take 4) = crc32 content ∧
      Bytes.toNatLittle ((trailer.drop 4).take 4) = content.length % UInt32.size then .ok content
  else .error .mismatch

/--
The first `count` bytes of the content of a gzip byte string.  The trailer is
looked at only if there are fewer.
-/
def read (count : Nat) (member : Bytes) : Except GzipError ByteArray :=
  match skipHeader member with
  | .error error => .error error
  | .ok body =>
      let inflated := inflate (wantedFor (count - 1)) body
      if count ≤ handedOver inflated then .ok (inflated.output.extract 0 count)
      else
        match inflated.ending with
        | .finished rest =>
            (checkTrailer (bytesOf inflated.output) rest).map fun _ => inflated.output
        | .enough => .ok (inflated.output.extract 0 count)
        | .failed .incomplete => .error .incomplete
        | .failed .corrupt => .error .corrupt

/-- The most bytes that can be asked for; they are counted in 64 bits. -/
def countLimit : Nat := 0xffffffffffffffff

/-- How many bytes are asked for in order to find out whether there are more than `limit`. -/
def askedFor (limit : Nat) : Nat :=
  min (limit + 1) countLimit

/-- The content of a gzip byte string, if it has at most `limit` bytes. -/
def decode (limit : Nat) (member : Bytes) : Except GzipError Bytes :=
  match read (askedFor limit) member with
  | .error error => .error error
  | .ok output =>
      if limit < output.size then .error (.tooLarge limit) else .ok (bytesOf output)

/-- The limit of payloads that are received. -/
def payloadLimit : Nat := 64 * 1024 * 1024

end Gzip
end Compression
end Telemetry
