import Mathlib.Algebra.Order.Floor.Div
import Telemetry.Proofs.Sealing.Block
import Telemetry.Sealing.Payload

/-!
# What becomes of a sealed payload

Cutting a payload into messages loses nothing, and cutting a row of blocks at
the block size finds the blocks again.  So a payload of any length that was
sealed with one half of a pair is opened by the other.
-/

namespace Telemetry
namespace Sealing

/-! ## Pieces -/

theorem pieces_cons (width : Nat) (byte : UInt8) (rest : Bytes) :
    pieces width (byte :: rest) = (byte :: rest.take width) :: pieces width (rest.drop width) := by
  rw [pieces]

/-- Cutting loses nothing. -/
theorem flatten_pieces (width : Nat) (bytes : Bytes) : (pieces width bytes).flatten = bytes := by
  fun_induction pieces width bytes with
  | case1 => rfl
  | case2 byte rest inductionHypothesis =>
      rw [List.flatten_cons, inductionHypothesis, List.cons_append, List.take_append_drop]

theorem length_le_of_mem_pieces
    {width : Nat} {bytes piece : Bytes}
    (present : piece ∈ pieces width bytes) :
    piece.length ≤ width + 1 := by
  fun_induction pieces width bytes with
  | case1 => cases present
  | case2 byte rest inductionHypothesis =>
      rcases List.mem_cons.mp present with rfl | later
      · simp
      · exact inductionHypothesis later

/-- Cutting a row of blocks of one size at that size finds the blocks again. -/
theorem pieces_flatten
    {width : Nat} {blocks : List Bytes}
    (sizes : ∀ block ∈ blocks, block.length = width + 1) :
    pieces width blocks.flatten = blocks := by
  induction blocks with
  | nil => rw [List.flatten_nil, pieces]
  | cons block rest inductionHypothesis =>
      have size := sizes block List.mem_cons_self
      obtain ⟨byte, others, rfl⟩ := List.exists_cons_of_length_eq_add_one size
      have others_length : others.length = width := by simpa using size
      rw [List.flatten_cons, List.cons_append, pieces_cons, List.take_left' others_length,
        List.drop_left' others_length,
        inductionHypothesis fun block present => sizes block (List.mem_cons_of_mem _ present)]

/-- Bytes that are a multiple of the width long are cut into pieces of one length. -/
theorem length_of_mem_pieces
    {width : Nat} {bytes piece : Bytes}
    (whole : width + 1 ∣ bytes.length)
    (present : piece ∈ pieces width bytes) :
    piece.length = width + 1 := by
  fun_induction pieces width bytes with
  | case1 => cases present
  | case2 byte rest inductionHypothesis =>
      have enough : width ≤ rest.length := Nat.le_of_succ_le_succ (Nat.le_of_dvd (by simp) whole)
      rcases List.mem_cons.mp present with rfl | later
      · rw [List.length_cons, List.length_take_of_le enough]
      · refine inductionHypothesis ?_ later
        have split : (byte :: rest).length = (rest.drop width).length + (width + 1) := by
          rw [List.length_cons, List.length_drop]
          omega
        rw [split] at whole
        exact (Nat.dvd_add_left (Nat.dvd_refl _)).mp whole

/-- There is a piece for each width that is begun. -/
theorem length_pieces (width : Nat) (bytes : Bytes) :
    (pieces width bytes).length = bytes.length ⌈/⌉ (width + 1) := by
  fun_induction pieces width bytes with
  | case1 => exact (zero_ceilDiv _).symm
  | case2 byte rest inductionHypothesis =>
      rw [List.length_cons, inductionHypothesis, List.length_drop, List.length_cons,
        Nat.ceilDiv_eq_add_pred_div, Nat.ceilDiv_eq_add_pred_div]
      rcases Nat.le_total width rest.length with enough | few
      · rw [show rest.length - width + (width + 1) - 1 = rest.length by omega,
          show rest.length + 1 + (width + 1) - 1 = rest.length + (width + 1) by omega,
          Nat.add_div_right _ (Nat.succ_pos width)]
      · have none : (rest.length - width + (width + 1) - 1) / (width + 1) = 0 :=
          Nat.div_eq_of_lt (by omega)
        have one : (rest.length + 1 + (width + 1) - 1) / (width + 1) = 1 :=
          Nat.div_eq_of_lt_le (by omega) (by omega)
        rw [none, one]

/-- There are no more pieces than bytes. -/
theorem length_pieces_le (width : Nat) (bytes : Bytes) :
    (pieces width bytes).length ≤ bytes.length := by
  rw [length_pieces, ceilDiv_le_iff_le_mul (Nat.succ_pos width)]
  exact Nat.le_mul_of_pos_left _ (Nat.succ_pos width)

/-! ## Messages -/

theorem flatten_messages (size : Nat) (payload : Bytes) :
    (messages size payload).flatten = payload := by
  unfold messages
  split
  next empty => rw [empty]; rfl
  next => exact flatten_pieces _ payload

theorem messages_ne_nil (size : Nat) (payload : Bytes) : messages size payload ≠ [] := by
  unfold messages
  split
  next => exact List.cons_ne_nil _ _
  next nonempty =>
    obtain ⟨byte, rest, rfl⟩ := List.exists_cons_of_ne_nil nonempty
    rw [pieces_cons]
    exact List.cons_ne_nil _ _

/-- Every message of a payload fits a block that is large enough for any. -/
theorem length_le_of_mem_messages
    {size : Nat} {payload message : Bytes}
    (large : overhead < size)
    (present : message ∈ messages size payload) :
    message.length + overhead ≤ size := by
  unfold messages at present
  split at present
  next =>
    rw [List.mem_singleton.mp present, List.length_nil]
    omega
  next =>
    have short := length_le_of_mem_pieces present
    unfold messageLimit at short
    omega

/-- A payload has a message for each part that is begun, and one if it is empty. -/
theorem length_messages
    {size : Nat}
    (large : overhead < size)
    (payload : Bytes) :
    (messages size payload).length = max 1 (payload.length ⌈/⌉ (size - overhead)) := by
  have width : messageLimit size - 1 + 1 = size - overhead := by
    unfold messageLimit
    omega
  unfold messages
  split
  next empty => rw [empty, List.length_nil, zero_ceilDiv, List.length_singleton, Nat.max_zero]
  next nonempty =>
    have some_piece := List.length_pos_of_ne_nil (messages_ne_nil size payload)
    rw [messages, if_neg nonempty, length_pieces, width] at some_piece
    rw [length_pieces, width, Nat.max_eq_right some_piece]

theorem length_messages_le (size : Nat) (payload : Bytes) :
    (messages size payload).length ≤ payload.length + 1 := by
  unfold messages
  split
  next empty => exact Nat.le_add_left _ _
  next => exact (length_pieces_le _ payload).trans (Nat.le_succ _)

/-! ## Rows of blocks -/

/-- Messages that can be sealed one by one can be sealed and opened in a row. -/
theorem exists_blocks
    {sealBlock : Bytes -> Bytes -> Option Bytes} {openBlock : Bytes -> Option Bytes}
    {seeds : Nat -> Bytes} {size : Nat} {messages : List Bytes}
    (opens : ∀ position, ∀ message ∈ messages, ∃ block,
      sealBlock (seeds position) message = some block ∧ block.length = size ∧
        openBlock block = some message)
    (position : Nat) :
    ∃ blocks, sealAll sealBlock seeds position messages = .ok blocks.flatten ∧
      blocks.length = messages.length ∧ (∀ block ∈ blocks, block.length = size) ∧
      openAll openBlock blocks = .ok messages.flatten := by
  induction messages generalizing position with
  | nil => exact ⟨[], rfl, rfl, nofun, rfl⟩
  | cons message rest inductionHypothesis =>
      obtain ⟨block, seals, length, opened⟩ := opens position message List.mem_cons_self
      obtain ⟨blocks, sealsRest, count, lengths, openedRest⟩ := inductionHypothesis
        (fun position other present => opens position other (List.mem_cons_of_mem _ present))
        (position + 1)
      refine ⟨block :: blocks, ?_, by simp [count], ?_, ?_⟩
      · simp [sealAll, seals, sealsRest]
      · intro other present
        rcases List.mem_cons.mp present with rfl | later
        · exact length
        · exact lengths other later
      · simp [openAll, opened, openedRest]

/-- A row of blocks is as long as its messages are many. -/
theorem length_of_sealAll
    {sealBlock : Bytes -> Bytes -> Option Bytes} {seeds : Nat -> Bytes} {size position : Nat}
    {messages : List Bytes} {blocks : Bytes}
    (sizes : ∀ seed message block, sealBlock seed message = some block -> block.length = size)
    (seals : sealAll sealBlock seeds position messages = .ok blocks) :
    blocks.length = messages.length * size := by
  induction messages generalizing position blocks with
  | nil =>
      cases seals
      rw [List.length_nil, List.length_nil, Nat.zero_mul]
  | cons message rest inductionHypothesis =>
      rw [sealAll] at seals
      split at seals
      next => cases seals
      next block first =>
        split at seals
        next => cases seals
        next others later =>
          cases seals
          rw [List.length_append, sizes _ _ _ first, inductionHypothesis later, List.length_cons,
            Nat.succ_mul, Nat.add_comm]

/-- A sealed payload has a block for each of its messages. -/
theorem PublicKey.length_of_sealPayload
    {key : PublicKey} {seeds : Nat -> Bytes} {payload blocks : Bytes}
    (seals : key.sealPayload seeds payload = .ok blocks) :
    blocks.length = (messages key.size payload).length * key.size := by
  refine length_of_sealAll (fun seed message block sealed => ?_) seals
  unfold sealBlock? at sealed
  split at sealed
  next =>
    cases sealed
    exact Bytes.length_ofNatBig _ _
  next => cases sealed

/-- A sealed payload has at most one block for each byte and one more. -/
theorem PublicKey.length_le_of_sealPayload
    {key : PublicKey} {seeds : Nat -> Bytes} {payload blocks : Bytes}
    (seals : key.sealPayload seeds payload = .ok blocks) :
    blocks.length ≤ (payload.length + 1) * key.size := by
  rw [length_of_sealPayload seals]
  exact Nat.mul_le_mul_right _ (length_messages_le key.size payload)

/-- Some blocks of the size of a key are opened one by one. -/
theorem PrivateKey.openPayload_flatten
    {opener : PrivateKey} {blocks : List Bytes}
    (positive : 0 < opener.size)
    (nonempty : blocks ≠ [])
    (sizes : ∀ block ∈ blocks, block.length = opener.size) :
    opener.openPayload blocks.flatten = openAll opener.openBlock? blocks := by
  have total : blocks.flatten.length = blocks.length * opener.size := by
    rw [List.length_flatten, List.map_congr_left sizes, List.map_const', List.sum_replicate]
    rfl
  have some_byte : blocks.flatten ≠ [] := by
    refine List.ne_nil_of_length_pos ?_
    rw [total]
    exact Nat.mul_pos (List.length_pos_of_ne_nil nonempty) positive
  have whole : blocks.flatten.length % opener.size = 0 := by
    rw [total]
    exact Nat.mul_mod_left _ _
  have width : opener.size - 1 + 1 = opener.size := Nat.sub_add_cancel positive
  rw [openPayload, if_neg (not_or.mpr ⟨some_byte, not_not.mpr whole⟩),
    pieces_flatten (by rwa [width])]

/-- A payload that was sealed with one half of a pair is opened by the other. -/
theorem IsPair.openPayload_sealPayload
    {sealer : PublicKey} {opener : PrivateKey} {seeds : Nat -> Bytes}
    (isPair : IsPair sealer opener)
    (large : overhead < sealer.size)
    (seeded : ∀ position, (seeds position).length = hashLength)
    (payload : Bytes) :
    ∃ blocks, sealer.sealPayload seeds payload = .ok blocks ∧
      opener.openPayload blocks = .ok payload := by
  obtain ⟨blocks, seals, count, lengths, opened⟩ := exists_blocks
    (fun position message present => isPair.openBlock?_sealBlock? (seeded position)
      (length_le_of_mem_messages large present)) 0
  have size := isPair.size_eq
  have nonempty : blocks ≠ [] := by
    refine List.ne_nil_of_length_pos ?_
    rw [count]
    exact List.length_pos_of_ne_nil (messages_ne_nil sealer.size payload)
  refine ⟨blocks.flatten, seals, ?_⟩
  rw [PrivateKey.openPayload_flatten (by omega) nonempty (by rwa [size]), opened, flatten_messages]

end Sealing
end Telemetry
