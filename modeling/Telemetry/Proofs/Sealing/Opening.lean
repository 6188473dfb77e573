import Telemetry.Proofs.Sealing.Payload
import Telemetry.Proofs.Sending.Arrival

/-!
# What a key opens

A byte string is opened as a whole or not at all: it has to be made of whole
blocks, and every block has to open.  What was sealed with the other half of the
key is such a row of blocks, one for each message that fits.
-/

namespace Telemetry
namespace Sealing

/-! ## Rows of blocks -/

section Rows

variable {openBlock : Bytes -> Option Bytes} {blocks messages : List Bytes}

/-- Each block opens, or one of them does not. -/
theorem opens_or_closed (openBlock : Bytes -> Option Bytes) (blocks : List Bytes) :
    (∃ messages, List.Forall₂ (fun block message => openBlock block = some message)
      blocks messages) ∨ ∃ block ∈ blocks, openBlock block = none := by
  induction blocks with
  | nil => exact Or.inl ⟨[], .nil⟩
  | cons block rest inductionHypothesis =>
      cases first : openBlock block with
      | none => exact Or.inr ⟨block, List.mem_cons_self, first⟩
      | some message =>
          rcases inductionHypothesis with ⟨messages, each⟩ | ⟨other, later, closed⟩
          · exact Or.inl ⟨message :: messages, .cons first each⟩
          · exact Or.inr ⟨other, List.mem_cons_of_mem _ later, closed⟩

/-- Blocks that open, each of them, give their messages in a row. -/
theorem openAll_of_opens
    (each : List.Forall₂ (fun block message => openBlock block = some message) blocks messages) :
    openAll openBlock blocks = .ok messages.flatten := by
  induction each with
  | nil => rfl
  | cons first _ inductionHypothesis =>
      rw [openAll, first]
      dsimp only
      rw [inductionHypothesis]
      rfl

/-- One block that does not open keeps all of them closed. -/
theorem openAll_of_closed
    {block : Bytes}
    (present : block ∈ blocks)
    (closed : openBlock block = none) :
    openAll openBlock blocks = .error .cannotOpen := by
  induction present with
  | head rest => rw [openAll, closed]
  | tail first _ inductionHypothesis =>
      rw [openAll]
      split
      next => rfl
      next => rw [inductionHypothesis]

end Rows

/-! ## Whole byte strings -/

/-- What comes of opening a byte string: nothing is opened unless it is made of whole blocks, and
then every one of them has to open. -/
inductive PrivateKey.Opens (opener : PrivateKey) : Bytes -> Except SealError Bytes -> Prop where
  /-- An empty byte string, or one that ends inside of a block, is refused by its length. -/
  | truncated {bytes : Bytes}
      (cut : bytes = [] ∨ ¬ opener.size ∣ bytes.length) :
      opener.Opens bytes (.error (.truncated bytes.length opener.size))
  /-- Blocks that open, each of them, give their messages in order. -/
  | opened {blocks messages : List Bytes}
      (nonempty : blocks ≠ [])
      (sizes : ∀ block ∈ blocks, block.length = opener.size)
      (each : List.Forall₂ (fun block message => opener.openBlock? block = some message)
        blocks messages) :
      opener.Opens blocks.flatten (.ok messages.flatten)
  /-- One block that does not open keeps all of them closed. -/
  | refused {blocks : List Bytes} {block : Bytes}
      (sizes : ∀ block ∈ blocks, block.length = opener.size)
      (present : block ∈ blocks)
      (closed : opener.openBlock? block = none) :
      opener.Opens blocks.flatten (.error .cannotOpen)

namespace PrivateKey

variable {opener : PrivateKey}

/-- A byte string that is not cut is made of whole blocks. -/
theorem exists_blocks_of_dvd
    {bytes : Bytes}
    (positive : 0 < opener.size)
    (nonempty : bytes ≠ [])
    (whole : opener.size ∣ bytes.length) :
    ∃ blocks : List Bytes, blocks ≠ [] ∧ (∀ block ∈ blocks, block.length = opener.size) ∧
      blocks.flatten = bytes := by
  have width : opener.size - 1 + 1 = opener.size := Nat.sub_add_cancel positive
  refine ⟨pieces (opener.size - 1) bytes, ?_, fun block present => ?_, flatten_pieces _ bytes⟩
  · intro none
    exact nonempty (by rw [← flatten_pieces (opener.size - 1) bytes, none, List.flatten_nil])
  · rw [length_of_mem_pieces (by rwa [width]) present, width]

/-- Opening a byte string comes to what its blocks say, and to nothing else. -/
theorem openPayload_eq_iff_opens
    {bytes : Bytes} {result : Except SealError Bytes}
    (positive : 0 < opener.size) :
    opener.openPayload bytes = result ↔ opener.Opens bytes result := by
  constructor
  · rintro rfl
    by_cases cut : bytes = [] ∨ ¬ opener.size ∣ bytes.length
    · rw [openPayload, if_pos (by rwa [Nat.dvd_iff_mod_eq_zero] at cut)]
      exact .truncated cut
    · obtain ⟨nonempty, whole⟩ := not_or.mp cut
      obtain ⟨blocks, some_block, sizes, rfl⟩ :=
        exists_blocks_of_dvd positive nonempty (not_not.mp whole)
      rw [openPayload_flatten positive some_block sizes]
      rcases opens_or_closed opener.openBlock? blocks with
        ⟨messages, each⟩ | ⟨block, present, closed⟩
      · rw [openAll_of_opens each]
        exact .opened some_block sizes each
      · rw [openAll_of_closed present closed]
        exact .refused sizes present closed
  · intro opens
    cases opens with
    | truncated cut => exact if_pos (by rwa [Nat.dvd_iff_mod_eq_zero] at cut)
    | opened nonempty sizes each =>
        rw [openPayload_flatten positive nonempty sizes, openAll_of_opens each]
    | refused sizes present closed =>
        rw [openPayload_flatten positive (List.ne_nil_of_mem present) sizes,
          openAll_of_closed present closed]

end PrivateKey

/--
With a key pair whose blocks have room for a message, every payload is sealed, into one block for
each part of it that is begun and at least one, and is what opening the blocks gives back.  Every
byte string is opened as its blocks say: refused by its length if it is empty or no multiple of a
block, opened into the row of all messages if every block opens, and refused as a whole if one does
not.
-/
theorem sealed_in_blocks_and_opened_whole
    {sealer : PublicKey} {opener : PrivateKey}
    (isPair : IsPair sealer opener)
    (large : overhead < sealer.size) :
    (∀ seeds : Nat -> Bytes, (∀ position, (seeds position).length = hashLength) ->
      ∀ payload, ∃ blocks, sealer.sealPayload seeds payload = .ok blocks ∧
        blocks.length =
          sealer.size * max 1 (payload.length ⌈/⌉ (sealer.size - overhead)) ∧
        opener.openPayload blocks = .ok payload) ∧
      ∀ bytes result, opener.openPayload bytes = result ↔ opener.Opens bytes result := by
  refine ⟨fun seeds seeded payload => ?_, fun bytes result => ?_⟩
  · obtain ⟨blocks, seals, opens⟩ := isPair.openPayload_sealPayload large seeded payload
    refine ⟨blocks, seals, ?_, opens⟩
    rw [PublicKey.length_of_sealPayload seals, length_messages large, Nat.mul_comm]
  · exact PrivateKey.openPayload_eq_iff_opens (by rw [isPair.size_eq]; omega)

/-- A key of eighty-one bytes seals thirty-one bytes in three blocks and opens them, and refuses a
block that lacks a byte. -/
theorem thirtyOne_bytes_take_three_blocks :
    let payload : Bytes := List.replicate 31 7
    ∃ blocks, Sending.HttpSender.mersenneSealer.sealPayload
        (fun _ => List.replicate hashLength 0) payload = .ok blocks ∧
      blocks.length = 243 ∧
      Sending.HttpSender.mersenneOpener.openPayload blocks = .ok payload ∧
      Sending.HttpSender.mersenneOpener.openPayload (List.replicate 80 0) =
        .error (.truncated 80 81) := by
  intro payload
  have size : Sending.HttpSender.mersenneSealer.size = 81 := by decide +kernel
  have sizeToo : Sending.HttpSender.mersenneOpener.size = 81 := by decide +kernel
  obtain ⟨sealing, opening⟩ := sealed_in_blocks_and_opened_whole
    Sending.HttpSender.isPair_mersenne (by rw [size]; decide)
  obtain ⟨blocks, seals, length, opens⟩ := sealing (fun _ => List.replicate hashLength 0)
    (fun _ => List.length_replicate) payload
  refine ⟨blocks, seals, ?_, opens, ?_⟩
  · rw [length, size]
    decide
  · rw [← sizeToo]
    exact (opening (List.replicate 80 0) _).mpr (.truncated (Or.inr (by rw [sizeToo]; decide)))

end Sealing
end Telemetry
