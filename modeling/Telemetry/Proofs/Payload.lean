import Mathlib.Data.List.Forall2
import Telemetry.Payload
import Telemetry.Proofs.Compression.Limits
import Telemetry.Proofs.Pool

/-!
# Encoding batches one after another

A buffer is emptied before a batch is written to it, so nothing of what it has
been used for shows in the batch.  The zipped form is a gzip member, and if the
blocks in it can be inflated, the JSON comes back from it under any limit that
it keeps to.
-/

namespace Telemetry

namespace Compression
namespace Gzip

/-- The last bytes of a member are its trailer. -/
theorem drop_member (blocks content : Bytes) :
    (member blocks content).drop ((member blocks content).length - 8) = trailer content := by
  have eight : (trailer content).length = 8 := by simp [trailer]
  rw [member, List.length_append, eight, Nat.add_sub_cancel]
  exact List.drop_left

end Gzip
end Compression

namespace Payload

open Compression

/-- The gzip member of a content, its blocks made in a given way. -/
def zipWith (deflate : Bytes -> Bytes) (content : Bytes) : Bytes :=
  Gzip.member (deflate content) content

/-- Encodes batches one after another with the buffers of one pool. -/
def encodeEach (zip : Bytes -> Bytes) (pool : Pool) :
    (batches : List (List Metric)) -> List EncodedBatch × Pool
  | [] => ([], pool)
  | batch :: later =>
      let (encoded, next) := encodeBatchWith zip pool batch
      let (others, last) := encodeEach zip next later
      (encoded :: others, last)

/-- Nothing of what was in a buffer shows in what is written to it. -/
theorem writeBatch_eq (zip : Bytes -> Bytes) (buffer : Buffer) (batch : List Metric) :
    writeBatch zip buffer batch =
      ⟨buffer.number, Bytes.ofText (Metric.listJson batch),
        zip (Bytes.ofText (Metric.listJson batch))⟩ :=
  rfl

/-- The buffer for a batch is back in its pool when the batch is encoded. -/
theorem givenBack_encodeBatchWith (zip : Bytes -> Bytes) (pool : Pool) (batch : List Metric) :
    Pool.GivenBack pool (encodeBatchWith zip pool batch).2 :=
  Pool.givenBack_put_get rfl

/-- A batch as it is encoded with a new buffer. -/
def encodeAlone (zip : Bytes -> Bytes) (batch : List Metric) : EncodedBatch :=
  let buffer := writeBatch zip { number := 0 } batch
  ⟨buffer.content, buffer.zipped⟩

/-- A batch is encoded as with a new buffer, whatever pool its buffer is from. -/
theorem encodeBatchWith_eq (zip : Bytes -> Bytes) (pool : Pool) (batch : List Metric) :
    (encodeBatchWith zip pool batch).1 = encodeAlone zip batch := by
  simp only [encodeBatchWith, encodeAlone, writeBatch_eq]

/-- Of batches that are encoded one after another, each one is encoded as with a new buffer. -/
theorem encodeEach_eq (zip : Bytes -> Bytes) (pool : Pool) (batches : List (List Metric)) :
    (encodeEach zip pool batches).1 = batches.map (encodeAlone zip) := by
  induction batches generalizing pool with
  | nil => rfl
  | cons batch later inductionHypothesis =>
      rw [encodeEach, List.map_cons]
      exact congrArg₂ List.cons (encodeBatchWith_eq zip pool batch) (inductionHypothesis _)

/-- What an encoded batch is to be: its JSON, and a gzip member from which the JSON comes back. -/
structure IsEncoded (batch : List Metric) (encoded : EncodedBatch) : Prop where
  /-- The JSON is that of the batch. -/
  json : encoded.json = Bytes.ofText (Metric.listJson batch)
  /-- The JSON comes back from its member, unless it is longer than what may be received. -/
  decodes : Gzip.decode Gzip.payloadLimit encoded.gzip =
    if encoded.json.length ≤ Gzip.payloadLimit then .ok encoded.json
    else .error (.tooLarge Gzip.payloadLimit)
  /-- The last eight bytes are the checksum and the length of the JSON. -/
  trailer : ∃ checksum length : Bytes, checksum.length = 4 ∧ length.length = 4 ∧
    encoded.gzip.drop (encoded.gzip.length - 8) = checksum ++ length ∧
    Bytes.toNatLittle checksum = crc32 encoded.json ∧
    Bytes.toNatLittle length = encoded.json.length % UInt32.size

theorem isEncoded_encodeAlone
    {deflate : Bytes -> Bytes}
    (deflates : Deflates deflate)
    (batch : List Metric) :
    IsEncoded batch (encodeAlone (zipWith deflate) batch) where
  json := rfl
  decodes := Gzip.decode_member deflates (by decide) _
  trailer := by
    refine ⟨Bytes.ofNatLittle 4 (crc32 _), Bytes.ofNatLittle 4 (List.length _),
      Bytes.length_ofNatLittle 4 _, Bytes.length_ofNatLittle 4 _, Gzip.drop_member _ _, ?_,
      Bytes.toNatLittle_ofNatLittle 4 _⟩
    rw [Bytes.toNatLittle_ofNatLittle]
    exact Nat.mod_eq_of_lt (Gzip.crc32_lt _)

/-- Batches that are encoded one after another are encoded as each of them is with a new buffer,
whatever is left in the buffers of the pool, and their JSON comes back. -/
theorem batches_encoded_independently
    {deflate : Bytes -> Bytes}
    (deflates : Deflates deflate)
    (pool : Pool)
    (batches : List (List Metric)) :
    (encodeEach (zipWith deflate) pool batches).1 =
        batches.map (encodeAlone (zipWith deflate)) ∧
      List.Forall₂ IsEncoded batches (encodeEach (zipWith deflate) pool batches).1 := by
  have same := encodeEach_eq (zipWith deflate) pool batches
  refine ⟨same, ?_⟩
  rw [same, List.forall₂_map_right_iff]
  exact List.forall₂_same.mpr fun batch _ => isEncoded_encodeAlone deflates batch

/-- A pool whose only buffer was given back without being emptied. -/
def soiledPool : Pool where
  maxIdle := 1
  made := 1
  idle := [⟨0, [1, 2, 3], [4, 5]⟩]

/-- Two batches that are too short to be worth compressing, and are stored. -/
theorem soiledPool_encodes_two_batches :
    let heap : Metric := ⟨"HeapObjects", "gauge", none, none⟩
    let lookups : Metric := ⟨"LookupsPerRun", "gauge", none, none⟩
    let json := Bytes.ofText "[\x7b\"id\":\"LookupsPerRun\",\"type\":\"gauge\"\x7d]"
    Deflates storedBlocks ∧ ∃ first second,
      (encodeEach (zipWith storedBlocks) soiledPool [[heap], [lookups]]).1 = [first, second] ∧
        second.json = json ∧ Gzip.decode Gzip.payloadLimit second.gzip = .ok json := by
  intro heap lookups json
  obtain ⟨same, encoded⟩ :=
    batches_encoded_independently deflates_storedBlocks soiledPool [[heap], [lookups]]
  rw [same] at encoded
  have isEncoded := (List.forall₂_cons.mp (List.forall₂_cons.mp encoded).2).1
  have json_eq : (encodeAlone (zipWith storedBlocks) [lookups]).json = json := by decide +kernel
  refine ⟨deflates_storedBlocks, _, _, same, json_eq, ?_⟩
  rw [isEncoded.decodes, json_eq]
  exact if_pos (by decide +kernel)

end Payload
end Telemetry
