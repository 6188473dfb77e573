import Telemetry.Compression.Gzip
import Telemetry.Metric.Json
import Telemetry.Pool

/-!
# Batches as payloads

A batch of metrics travels as the gzip of its JSON array.  Both are built in a
pooled buffer, which is emptied before, so that one batch leaves nothing behind
for the next.  Any way of zipping will do whose results can be unzipped.
-/

namespace Telemetry

/-- A batch in both of its forms. -/
structure EncodedBatch where
  /-- The JSON array. -/
  json : Bytes
  /-- The gzip of the JSON array. -/
  gzip : Bytes

namespace Payload

/-- Writes a batch to a buffer, which is emptied before: its JSON, then the zipped JSON. -/
def writeBatch (zip : Bytes -> Bytes) (buffer : Buffer) (batch : List Metric) : Buffer :=
  let emptied := buffer.reset
  let written :=
    { emptied with content := emptied.content ++ Bytes.ofText (Metric.listJson batch) }
  { written with zipped := written.zipped ++ zip written.content }

/-- Encodes a batch with a buffer of a pool, and gives the buffer back. -/
def encodeBatchWith (zip : Bytes -> Bytes) (pool : Pool) (batch : List Metric) :
    EncodedBatch × Pool :=
  let (buffer, taken) := pool.get
  let filled := writeBatch zip buffer batch
  (⟨filled.content, filled.zipped⟩, taken.put filled)

/-- Encodes a batch with the compression of this library. -/
def encodeBatch : Pool -> List Metric -> EncodedBatch × Pool :=
  encodeBatchWith Compression.Gzip.encode

/-- The wording of the refusal of a JSON payload. -/
def refusal (fault : Json.Fault) : String :=
  "failed to deserialize payload: " ++ fault.message

end Payload
end Telemetry
