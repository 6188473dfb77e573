import Telemetry.Proofs.Payload
import Telemetry.Proofs.Sending.Arrival
import Telemetry.Proofs.Sending.Delivery

/-!
# Batches are posted within a deadline

A sender makes the request for a batch once, gives the buffer for it back, and
then posts the request on its schedule until it is taken.  What comes of it
depends on the answers to this request only.
-/

namespace Telemetry
namespace Sending

open Delivery

/-- A request is taken: it is answered in the time for an answer, with the status of success. -/
def Answer.Takes (answer : Answer) : Prop :=
  answer.status = some 200 ∧ answer.delay.nanoseconds ≤ answerLimit.nanoseconds

namespace HttpSender

/-- The address that the sender gives as its own can stand in a header. -/
def isSendable (sender : HttpSender) : Bool :=
  (Bytes.ofText sender.realIp).all isHeaderByte

/-- The attempts of a sender to post a request. -/
def attempts (sender : HttpSender) (link : Link) (request : Http.Request) :
    Nat -> Attempt AttemptError Unit :=
  if sender.isSendable then attempt link request else fun _ => unsendable

/-- What comes of posting a request until it is taken. -/
structure IsPosted (sender : HttpSender) (link : Link) (request : Http.Request)
    (delivery : Delivery) : Prop where
  /-- The request is posted once for each delay, and once before, at the most. -/
  length_le : delivery.starts.length ≤ sender.patience.schedule.length + 1
  /-- It is posted at once, and again when an attempt has failed and the delay behind it has
  passed. -/
  starts_eq : delivery.starts = (List.range delivery.starts.length).map
    (startAt sender.patience (sender.attempts link request))
  /-- If it can be sent at all, it is posted exactly in the attempts that are got to in time. -/
  posted_iff : sender.isSendable = true -> ∀ number, number < delivery.starts.length ↔
    Reaches sender.patience (sender.attempts link request) number ∧
      startAt sender.patience (sender.attempts link request) number ≤
        sender.patience.deadline.nanoseconds
  /-- It is not posted after the deadline. -/
  start_le : ∀ start ∈ delivery.starts, start ≤ sender.patience.deadline.nanoseconds
  /-- The delivery does not end after the deadline. -/
  finish_le : delivery.finish ≤ sender.patience.deadline.nanoseconds
  /-- The delivery succeeds exactly if the request is taken, in time. -/
  delivered_iff : delivery.result = .ok () ↔
    ∃ number < delivery.starts.length, (link number request).Takes ∧
      startAt sender.patience (sender.attempts link request) number
        + (link number request).delay.nanoseconds ≤ sender.patience.deadline.nanoseconds
  /-- A request that is taken is not posted again. -/
  stops : ∀ number < delivery.starts.length, (link number request).Takes ->
    delivery.starts.length = number + 1
  /-- The delivery is late exactly if the run of attempts is not done by the deadline. -/
  late_iff : delivery.result = .error (.late sender.patience.deadline) ↔
    sender.patience.deadline.nanoseconds <
      (sender.patience.run (sender.attempts link request)).finish
  /-- The delivery is exhausted exactly if all attempts fail in time, with no wait cut short. -/
  exhausted_iff : ∀ attempts failure, delivery.result = .error (.exhausted attempts failure) ↔
    attempts = sender.patience.schedule.length + 1 ∧
      Reaches sender.patience (sender.attempts link request) sender.patience.schedule.length ∧
      (sender.attempts link request sender.patience.schedule.length).outcome = .error failure ∧
      endAt sender.patience (sender.attempts link request) sender.patience.schedule.length ≤
        sender.patience.deadline.nanoseconds
  /-- All of these attempts are posts, if the request can be sent at all. -/
  exhausted_length : ∀ attempts failure, delivery.result = .error (.exhausted attempts failure) ->
    sender.isSendable = true -> delivery.starts.length = attempts
  /-- The delivery is cancelled exactly if the cancellation comes before or in a wait that it gets
  to, and in time. -/
  cancelled_iff : delivery.result = .error .cancelled ↔
    ∃ number instant, Reaches sender.patience (sender.attempts link request) number ∧
      Waits sender.patience (sender.attempts link request) number ∧
      IsCut sender.patience (sender.attempts link request) number instant ∧
      max instant.nanoseconds (endAt sender.patience (sender.attempts link request) number) ≤
        sender.patience.deadline.nanoseconds
  /-- There are no other results. -/
  result_cases : delivery.result = .ok () ∨
    delivery.result = .error (.late sender.patience.deadline) ∨
    (∃ attempts failure, delivery.result = .error (.exhausted attempts failure)) ∨
    delivery.result = .error .cancelled
  /-- Whatever is answered to other requests, or to this one when it is posted more often, does not
  matter: each time it is this request that is posted. -/
  only_this : ∀ other : Link,
    (∀ number < delivery.starts.length, other number request = link number request) ->
    sender.post other request = delivery

/-! ## Single attempts -/

section Attempts

variable {link : Link} {request : Http.Request} {number : Nat}

theorem outcome_attempt_eq_ok_iff :
    (attempt link request number).outcome = .ok () ↔ (link number request).Takes := by
  unfold attempt Answer.Takes
  dsimp only
  split
  next inTime =>
    simp only [inTime, and_true]
    cases (link number request).status with
    | none => simp
    | some status => by_cases success : status = 200 <;> simp [success]
  next late => simp [late]

/-- An attempt at a request that is taken takes as long as the answer. -/
theorem duration_attempt
    (takes : (link number request).Takes) :
    (attempt link request number).duration = (link number request).delay.nanoseconds := by
  unfold attempt
  dsimp only
  rw [if_pos takes.2]

end Attempts

/-! ## Whole deliveries -/

section Posts

variable {sender : HttpSender} {link : Link} {request : Http.Request}

theorem post_eq_of_sendable
    (sendable : sender.isSendable = true) :
    sender.post link request = make sender.patience (sender.attempts link request) := by
  rw [attempts, if_pos sendable]
  exact if_pos sendable

theorem post_eq_of_not_sendable
    (unsent : ¬ sender.isSendable = true) :
    sender.post link request =
      { make sender.patience (sender.attempts link request) with starts := [] } := by
  rw [attempts, if_neg unsent]
  exact if_neg unsent

/-- A request that can be sent is posted in every attempt. -/
theorem isPosted_of_sendable
    (sendable : sender.isSendable = true) :
    sender.IsPosted link request (sender.post link request) := by
  have attempts_eq (link : Link) : sender.attempts link request = attempt link request :=
    if_pos sendable
  rw [post_eq_of_sendable sendable]
  refine
    { length_le := length_starts_make_le _ _
      starts_eq := starts_make _ _
      posted_iff := fun _ _ => lt_length_starts_make_iff
      start_le := fun _ inside => le_deadline_of_mem_starts_make inside
      finish_le := finish_make_le _ _
      delivered_iff := ?_
      stops := ?_
      late_iff := result_make_eq_late_iff
      exhausted_iff := fun _ _ => result_make_eq_exhausted_iff
      exhausted_length := fun _ _ exhausted _ => length_starts_make_of_exhausted exhausted
      cancelled_iff := result_make_eq_cancelled_iff
      result_cases := result_make_cases _ _
      only_this := ?_ }
  · rw [result_make_eq_ok_iff]
    refine exists_congr fun number => and_congr_right fun _ => ?_
    rw [attempts_eq, outcome_attempt_eq_ok_iff]
    refine and_congr_right fun takes => ?_
    rw [← duration_attempt takes]
    rfl
  · intro number made takes
    refine length_starts_make_eq_of_taken made ?_
    rw [attempts_eq, outcome_attempt_eq_ok_iff]
    exact takes
  · intro other agree
    rw [post_eq_of_sendable sendable]
    refine make_congr fun number made => ?_
    rw [attempts_eq, attempts_eq, attempt, attempt, agree number made]

/-- A request that cannot be sent is not posted, and every attempt fails. -/
theorem isPosted_of_not_sendable
    (unsent : ¬ sender.isSendable = true) :
    sender.IsPosted link request (sender.post link request) := by
  have attempts_eq (link : Link) : sender.attempts link request = fun _ => unsendable :=
    if_neg unsent
  have never : (make sender.patience (sender.attempts link request)).result ≠ .ok () := by
    intro delivered
    obtain ⟨number, -, taken, -⟩ := result_make_eq_ok_iff.mp delivered
    rw [attempts_eq] at taken
    cases taken
  rw [post_eq_of_not_sendable unsent]
  refine
    { length_le := Nat.zero_le _
      starts_eq := rfl
      posted_iff := fun sendable => absurd sendable unsent
      start_le := fun _ inside => nomatch inside
      finish_le := finish_make_le _ _
      delivered_iff := iff_of_false never fun ⟨_, made, _⟩ => nomatch made
      stops := fun _ made => nomatch made
      late_iff := result_make_eq_late_iff
      exhausted_iff := fun _ _ => result_make_eq_exhausted_iff
      exhausted_length := fun _ _ _ sendable => absurd sendable unsent
      cancelled_iff := result_make_eq_cancelled_iff
      result_cases := result_make_cases _ _
      only_this := fun _ _ => by
        rw [post_eq_of_not_sendable unsent, attempts_eq, attempts_eq] }

theorem isPosted_post (sender : HttpSender) (link : Link) (request : Http.Request) :
    sender.IsPosted link request (sender.post link request) := by
  by_cases sendable : sender.isSendable = true
  · exact isPosted_of_sendable sendable
  · exact isPosted_of_not_sendable sendable

end Posts

/-- What comes of sending a batch. -/
structure IsSent (sender : HttpSender) (seeds : Nat -> Bytes) (link : Link) (batch : List Metric)
    (used : HttpSender) (delivery : Delivery) : Prop where
  /-- The sender is as it was before anything was posted, whatever comes of it. -/
  used_eq : used = (sender.prepare seeds batch).1
  /-- By then the buffer for the batch is back in the pool. -/
  givenBack : Pool.GivenBack sender.pool used.pool
  /-- Nothing is posted if the batch cannot be sealed. -/
  unsealed : ∀ error,
    sender.sealWith seeds (sender.zip (Bytes.ofText (Metric.listJson batch))) = .error error ->
    delivery = .failure (.unsealed error)
  /-- Otherwise the one request that carries the batch is posted. -/
  posted : ∀ payload,
    sender.sealWith seeds (sender.zip (Bytes.ofText (Metric.listJson batch))) = .ok payload ->
    ∃ request, request.body = payload ∧
      sender.Carries seeds (sender.zip (Bytes.ofText (Metric.listJson batch))) request ∧
      delivery = used.post link request ∧
      sender.IsPosted link request delivery

section Batches

variable {sender : HttpSender} {seeds : Nat -> Bytes} {batch : List Metric}

theorem send_of_unsealed
    {error : Sealing.SealError}
    (fails : sender.sealWith seeds (sender.zip (Bytes.ofText (Metric.listJson batch))) =
      .error error)
    (link : Link) :
    sender.send seeds link batch =
      ((sender.prepare seeds batch).1, .failure (.unsealed error)) := by
  have prepared : sender.prepare seeds batch = ((sender.prepare seeds batch).1, .error error) :=
    Prod.ext rfl (by rw [prepare_eq, fails]; rfl)
  rw [send, prepared]

theorem send_of_sealed
    {payload : Bytes}
    (seals : sender.sealWith seeds (sender.zip (Bytes.ofText (Metric.listJson batch))) =
      .ok payload)
    (link : Link) :
    ∃ request, request.body = payload ∧
      sender.Carries seeds (sender.zip (Bytes.ofText (Metric.listJson batch))) request ∧
      sender.send seeds link batch =
        ((sender.prepare seeds batch).1, (sender.prepare seeds batch).1.post link request) := by
  refine ⟨_, rfl, carries_request seals, ?_⟩
  have prepared : sender.prepare seeds batch =
      ((sender.prepare seeds batch).1, .ok (sender.request payload (sender.signer.map fun signer =>
        signer.sign (sender.zip (Bytes.ofText (Metric.listJson batch)))))) :=
    Prod.ext rfl (by rw [prepare_eq, seals]; rfl)
  rw [send, prepared]

end Batches

/-- Whatever is answered and however long it takes, a batch is posted on the schedule and within the
deadline, and its buffer is given back before. -/
theorem batch_posted_within_deadline (sender : HttpSender) (seeds : Nat -> Bytes) (link : Link)
    (batch : List Metric) :
    sender.IsSent seeds link batch (sender.send seeds link batch).1
      (sender.send seeds link batch).2 := by
  have used_eq : (sender.send seeds link batch).1 = (sender.prepare seeds batch).1 := by
    cases seals : sender.sealWith seeds (sender.zip (Bytes.ofText (Metric.listJson batch))) with
    | error error => rw [send_of_unsealed seals]
    | ok payload =>
        obtain ⟨request, -, -, sent⟩ := send_of_sealed seals link
        rw [sent]
  refine ⟨used_eq, ?_, fun error fails => ?_, fun payload seals => ?_⟩
  · rw [used_eq]
    exact Payload.givenBack_encodeBatchWith sender.zip sender.pool batch
  · rw [send_of_unsealed fails]
  · obtain ⟨request, body, carries, sent⟩ := send_of_sealed seals link
    rw [sent]
    exact ⟨request, body, carries, rfl, isPosted_post sender link request⟩

end HttpSender
end Sending
end Telemetry
