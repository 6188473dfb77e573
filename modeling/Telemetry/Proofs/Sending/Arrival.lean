import Mathlib.NumberTheory.LucasLehmer
import Telemetry.Http.Server
import Telemetry.Proofs.Compression.Limits
import Telemetry.Proofs.Metric.Json
import Telemetry.Proofs.Sealing.Payload
import Telemetry.Proofs.Signature
import Telemetry.Sending.Http

/-!
# A batch that is sent arrives

A sender writes a batch as JSON, zips it, signs the zipped form and seals it; a
server opens, checks, unzips and reads.  Each step of the server undoes the one
of the sender that it is the counterpart of, and the headers tell the server
which of them there were.
-/

namespace Telemetry

namespace Http

theorem findHeader?_cons (header : String × Bytes) (rest : List (String × Bytes)) (name : String) :
    findHeader? (header :: rest) name =
      if sameIgnoringCase header.1 name then valueText? header.2 else findHeader? rest name := by
  unfold findHeader?
  rw [List.find?_cons]
  cases sameIgnoringCase header.1 name <;> rfl

end Http

namespace Sending
namespace HttpSender

open Compression Sealing

/-- A server has the keys for what a sender sends: its key for signatures or none, and the other
half of a key that it seals with, whose blocks have room for a message. -/
structure Faces (sender : HttpSender) (server : Http.Server) : Prop where
  /-- The server checks signatures with the key of the sender or not at all. -/
  signer : server.signer = sender.signer ∨ server.signer = none
  /-- The server can open what the sender seals. -/
  opener : ∀ key, sender.sealer = some key ->
    overhead < key.size ∧ ∃ opener, server.opener = some opener ∧ IsPair key opener

/-- A request carries a zipped batch as a sender is to send it: signed in its zipped form when there
is a key to sign with, then sealed when there is one to seal with, and with headers that say so. -/
structure Carries (sender : HttpSender) (seeds : Nat -> Bytes) (zipped : Bytes)
    (request : Http.Request) : Prop where
  /-- The body is said to be zipped. -/
  isZipped : request.isZipped = true
  /-- The signature is that of the zipped batch. -/
  signature : request.header? "hashsha256" = sender.signer.map fun signer => signer.sign zipped
  /-- The body is said to be sealed exactly when there is a key to seal with. -/
  isSealed : request.isSealed = sender.sealer.isSome
  /-- The body is the sealed payload of the zipped batch. -/
  body : sender.sealWith seeds zipped = .ok request.body

/-- What is zipped can be unzipped, as long as it is received at all. -/
def ZipsWell (zip : Bytes -> Bytes) : Prop :=
  ∀ content : Bytes, content.length ≤ Gzip.payloadLimit ->
    Gzip.decode Gzip.payloadLimit (zip content) = .ok content

theorem zipsWell_encode : ZipsWell Gzip.encode :=
  fun _ => Gzip.decode_encode (by decide)

/-! ## Headers -/

variable (sender : HttpSender) (payload : Bytes) (signature : Option String)

/-- The headers of a request are those of its content, and two that say what was done with it. -/
theorem header?_request (name : String) :
    (sender.request payload signature).header? name =
      if Http.sameIgnoringCase "content-type" name then some "application/json"
      else if Http.sameIgnoringCase "content-encoding" name then some "gzip"
      else if Http.sameIgnoringCase "x-real-ip" name then
        Http.valueText? (Bytes.ofText sender.realIp)
      else if sender.sealer.isSome && Http.sameIgnoringCase "x-encrypted" name then some "true"
      else if Http.sameIgnoringCase "hashsha256" name then
        signature.bind fun text => Http.valueText? (Bytes.ofText text)
      else none := by
  have json : Http.valueText? (Bytes.ofText "application/json") = some "application/json" := by
    decide +kernel
  have gzip : Http.valueText? (Bytes.ofText "gzip") = some "gzip" := by decide +kernel
  have yes : Http.valueText? (Bytes.ofText "true") = some "true" := by decide +kernel
  have noHeader : Http.findHeader? [] name = none := rfl
  unfold Http.Request.header? request
  cases sender.sealer <;> cases signature <;>
    simp [Http.findHeader?_cons, json, gzip, yes, noHeader]

theorem declaredLength?_request : (sender.request payload signature).declaredLength? = none := by
  have missing : (sender.request payload signature).header? "content-length" = none := by
    rw [header?_request]
    simp +decide
  rw [Http.Request.declaredLength?, missing]
  rfl

theorem isZipped_request : (sender.request payload signature).isZipped = true := by
  have given : (sender.request payload signature).header? "content-encoding" = some "gzip" := by
    rw [header?_request]
    simp +decide
  rw [Http.Request.isZipped, given]
  decide

theorem isSealed_request : (sender.request payload signature).isSealed = sender.sealer.isSome := by
  rw [Http.Request.isSealed, header?_request]
  cases sender.sealer <;> simp +decide

theorem header?_signature_request :
    (sender.request payload signature).header? "hashsha256" =
      signature.bind fun text => Http.valueText? (Bytes.ofText text) := by
  rw [header?_request]
  simp +decide

/-! ## The steps of a server -/

/-- A body that is not too long is read. -/
theorem readBody_request
    (short : payload.length ≤ Http.bodyLimit) :
    (sender.request payload signature).readBody = .ok payload := by
  rw [Http.Request.readBody, declaredLength?_request]
  exact if_neg (Nat.not_lt.mpr short)

variable {sender} {server : Http.Server}

/-- A payload is sealed, if it is to be, and opened. -/
theorem Faces.exists_sealed
    {seeds : Nat -> Bytes}
    (faces : sender.Faces server)
    (seeded : ∀ position, (seeds position).length = hashLength)
    (zipped : Bytes) :
    ∃ payload, sender.sealWith seeds zipped = .ok payload ∧ ∀ signature,
      Http.openBody server.opener (sender.request payload signature) payload = .ok zipped := by
  cases sealer : sender.sealer with
  | none =>
      refine ⟨zipped, by rw [sealWith, sealer], fun signature => ?_⟩
      cases opener : server.opener with
      | none => rfl
      | some key =>
          rw [Http.openBody, isSealed_request, sealer]
          rfl
  | some key =>
      obtain ⟨large, opener, given, isPair⟩ := faces.opener key sealer
      obtain ⟨payload, seals, opens⟩ := isPair.openPayload_sealPayload large seeded zipped
      refine ⟨payload, by rw [sealWith, sealer]; exact seals, fun signature => ?_⟩
      simp only [given, Http.openBody, isSealed_request, sealer, Option.isSome_some, if_true,
        opens]

/-- The signature of a zipped batch passes the check. -/
theorem Faces.checkSignature_request
    (faces : sender.Faces server)
    (zipped payload : Bytes) :
    Http.checkSignature server.signer
      (sender.request payload (sender.signer.map fun signer => signer.sign zipped)) zipped =
        .ok zipped := by
  have unchecked (request : Http.Request) :
      Http.checkSignature none request zipped = .ok zipped := rfl
  rcases faces.signer with same | none
  · rw [same]
    cases sender.signer with
    | none => exact unchecked _
    | some signer =>
        rw [Option.map_some, Http.checkSignature, header?_signature_request, Option.bind_some,
          signer.valueText?_sign]
        exact if_pos (signer.verifies_sign zipped)
  · rw [none]
    exact unchecked _

/-- What was zipped is unzipped. -/
theorem unzip_request
    (zips : ZipsWell sender.zip)
    {content : Bytes}
    (short : content.length ≤ Gzip.payloadLimit)
    (payload : Bytes)
    (signature : Option String) :
    Http.unzip (sender.request payload signature) (sender.zip content) = .ok content := by
  rw [Http.unzip, if_pos (isZipped_request sender payload signature), zips content short]

/-! ## Whole batches -/

/-- The request for a batch has its sealed payload and the signature of its zipped form. -/
theorem prepare_eq (sender : HttpSender) (seeds : Nat -> Bytes) (batch : List Metric) :
    let zipped := sender.zip (Bytes.ofText (Metric.listJson batch))
    (sender.prepare seeds batch).2 = (sender.sealWith seeds zipped).map fun payload =>
      sender.request payload (sender.signer.map fun signer => signer.sign zipped) :=
  rfl

/-- The request with a sealed batch and its signature carries the batch. -/
theorem carries_request
    {seeds : Nat -> Bytes} {zipped payload : Bytes}
    (seals : sender.sealWith seeds zipped = .ok payload) :
    sender.Carries seeds zipped
      (sender.request payload (sender.signer.map fun signer => signer.sign zipped)) where
  isZipped := isZipped_request sender payload _
  signature := by
    rw [header?_signature_request]
    cases sender.signer with
    | none => rfl
    | some signer => exact signer.valueText?_sign zipped
  isSealed := isSealed_request sender payload _
  body := seals

/-- A batch whose JSON is not longer than what may be received is made into a request that carries
it, and a server with the keys for it reads the batch back, if the body is not too long either: each
metric with its name, type and delta, and with a finite value as the number that its text is read
as. -/
theorem batch_arrives
    {seeds : Nat -> Bytes} {batch : List Metric}
    (faces : sender.Faces server)
    (zips : ZipsWell sender.zip)
    (seeded : ∀ position, (seeds position).length = hashLength)
    (short : (Bytes.ofText (Metric.listJson batch)).length ≤ Gzip.payloadLimit) :
    ∃ request, (sender.prepare seeds batch).2 = .ok request ∧
      sender.Carries seeds (sender.zip (Bytes.ofText (Metric.listJson batch))) request ∧
      (request.body.length ≤ Http.bodyLimit ->
        ∃ received, server.readUpdate Metric.listOfJson request = .ok received ∧
          List.Forall₂ Metric.ArrivesAs batch received) := by
  let content := Bytes.ofText (Metric.listJson batch)
  let signature := sender.signer.map fun signer => signer.sign (sender.zip content)
  obtain ⟨payload, seals, opens⟩ := faces.exists_sealed seeded (sender.zip content)
  obtain ⟨received, reads, arrives⟩ := Metric.exists_listOfJson batch
  refine ⟨sender.request payload signature, ?_, carries_request seals,
    fun fits => ⟨received, ?_, arrives⟩⟩
  · rw [prepare_eq, seals]
    rfl
  · rw [Http.Server.readUpdate, readBody_request sender payload signature fits]
    dsimp only
    rw [opens signature]
    dsimp only
    rw [faces.checkSignature_request (sender.zip content) payload]
    dsimp only
    rw [Http.readPayload, unzip_request zips short payload signature]
    dsimp only
    rw [reads]

/-! ## A signed and sealed batch -/

/-- A key whose modulus is the product of two Mersenne primes. -/
def mersenneSealer : PublicKey where
  modulus := mersenne 521 * mersenne 127
  exponent := 65537

/-- The other half of the key. -/
def mersenneOpener : PrivateKey where
  modulus := mersenne 521 * mersenne 127
  exponent := (1 + 10880 * ((mersenne 521 - 1) * (mersenne 127 - 1))) / 65537

theorem isPair_mersenne : IsPair mersenneSealer mersenneOpener := by
  refine ⟨mersenne 521, mersenne 127, ?_, ?_, by decide +kernel, rfl, rfl, by decide +kernel,
    by decide +kernel⟩
  · exact lucas_lehmer_sufficiency _ (by norm_num) (by norm_num)
  · exact lucas_lehmer_sufficiency _ (by norm_num) (by norm_num)

/-- A sender that signs and seals. -/
def keyedSender : HttpSender where
  url := "http://localhost:8080/updates/"
  realIp := "127.0.0.1"
  signer := some ⟨[107], by decide⟩
  sealer := some mersenneSealer

/-- A server with the keys for it. -/
def keyedServer : Http.Server where
  service := {}
  signer := some ⟨[107], by decide⟩
  opener := some mersenneOpener

/-- A counter at the least number, a gauge and a gauge that is no number. -/
def mixedBatch : List Metric :=
  [⟨"hits of \"all\"\n", "counter", some (-9223372036854775808), none⟩,
    ⟨"load", "gauge", none, some ⟨0x3ff8000000000000⟩⟩,
    ⟨"idle", "gauge", none, some ⟨0x7ff8000000000000⟩⟩]

theorem mixedBatch_arrives :
    ∃ request received,
      (keyedSender.prepare (fun _ => List.replicate hashLength 0) mixedBatch).2 = .ok request ∧
        request.isSealed = true ∧
        keyedServer.readUpdate Metric.listOfJson request = .ok received ∧
        List.Forall₂ Metric.ArrivesAs mixedBatch received := by
  have faces : keyedSender.Faces keyedServer := by
    refine ⟨Or.inl rfl, ?_⟩
    intro key given
    rw [← show mersenneSealer = key from Option.some.inj given]
    exact ⟨by decide +kernel, mersenneOpener, rfl, isPair_mersenne⟩
  obtain ⟨request, prepared, carries, arrives⟩ :=
    @batch_arrives _ _ (fun _ => List.replicate hashLength 0) mixedBatch faces zipsWell_encode
      (fun _ => List.length_replicate) (by decide +kernel)
  have seals : mersenneSealer.sealPayload (fun _ => List.replicate hashLength 0)
      (Gzip.encode (Bytes.ofText (Metric.listJson mixedBatch))) = .ok request.body :=
    carries.body
  have fits : request.body.length ≤ Http.bodyLimit :=
    (PublicKey.length_le_of_sealPayload seals).trans (by decide +kernel)
  obtain ⟨received, reads, same⟩ := arrives fits
  exact ⟨request, received, prepared, carries.isSealed, reads, same⟩

end HttpSender
end Sending
end Telemetry
