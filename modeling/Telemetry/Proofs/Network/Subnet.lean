import Telemetry.Network.Subnet

/-!
# Members of a subnet

The addresses between the two ends of a subnet are exactly those of its family
with the same leading bits, whether or not the address of the subnet has other
bits behind them.
-/

namespace Telemetry
namespace Network

/-- Two bit strings agree on their leading bits. -/
def SharesLeading (leading : Nat) (left right : BitVec width) : Prop :=
  ∀ index < leading, left.getMsbD index = right.getMsbD index

/-- An address is of the family of a subnet and has its leading bits. -/
def Subnet.Covers : Subnet -> Address -> Prop
  | .v4 bits leading _, .v4 address => SharesLeading leading address bits
  | .v6 bits leading _, .v6 address => SharesLeading leading address bits
  | _, _ => False

namespace Subnet

variable {leading : Nat}

/-- Agreeing on the leading bits is agreeing on what is left without the others. -/
theorem sharesLeading_iff
    (within : leading ≤ width)
    (left right : BitVec width) :
    SharesLeading leading left right ↔
      left >>> (width - leading) = right >>> (width - leading) := by
  constructor
  · intro shares
    apply BitVec.eq_of_getLsbD_eq
    intro index _
    rw [BitVec.getLsbD_ushiftRight, BitVec.getLsbD_ushiftRight]
    by_cases inside : index < leading
    · have same := shares (leading - 1 - index) (by omega)
      rw [BitVec.getMsbD_eq_getLsbD, BitVec.getMsbD_eq_getLsbD] at same
      have place : width - 1 - (leading - 1 - index) = width - leading + index := by omega
      have small : leading - 1 - index < width := by omega
      simpa [place, small] using same
    · rw [BitVec.getLsbD_of_ge left _ (by omega), BitVec.getLsbD_of_ge right _ (by omega)]
  · intro same index inside
    have bit := congrArg (fun bits => bits.getLsbD (leading - 1 - index)) same
    rw [BitVec.getLsbD_ushiftRight, BitVec.getLsbD_ushiftRight] at bit
    have place : width - leading + (leading - 1 - index) = width - 1 - index := by omega
    rw [place] at bit
    rw [BitVec.getMsbD_eq_getLsbD, BitVec.getMsbD_eq_getLsbD, bit]

/-- The lowest address keeps the leading bits. -/
theorem lowest_shiftRight (bits : BitVec width) :
    lowest leading bits >>> (width - leading) = bits >>> (width - leading) := by
  apply BitVec.eq_of_getLsbD_eq
  intro index inside
  simp only [lowest, BitVec.getLsbD_ushiftRight, BitVec.getLsbD_and, BitVec.getLsbD_shiftLeft,
    BitVec.getLsbD_allOnes]
  by_cases known : width - leading + index < width
  · simp [known, inside]
  · simp [BitVec.getLsbD_of_ge bits _ (Nat.not_lt.mp known)]

/-- The highest address keeps the leading bits. -/
theorem highest_shiftRight
    (within : leading ≤ width)
    (bits : BitVec width) :
    highest leading bits >>> (width - leading) = bits >>> (width - leading) := by
  apply BitVec.eq_of_getLsbD_eq
  intro index _
  simp only [highest, BitVec.getLsbD_ushiftRight, BitVec.getLsbD_or, BitVec.getLsbD_allOnes]
  have outside : ¬ leading + (width - leading + index) < width := by omega
  simp [outside]

/-- Addresses with the same leading bits have the same lowest address. -/
theorem lowest_eq_of_shiftRight_eq
    {left right : BitVec width}
    (same : left >>> (width - leading) = right >>> (width - leading)) :
    lowest leading left = lowest leading right := by
  apply BitVec.eq_of_getLsbD_eq
  intro index inside
  simp only [lowest, BitVec.getLsbD_and, BitVec.getLsbD_shiftLeft, BitVec.getLsbD_allOnes]
  by_cases low : index < width - leading
  · simp [low]
  · have bit := congrArg (fun bits => bits.getLsbD (index - (width - leading))) same
    rw [BitVec.getLsbD_ushiftRight, BitVec.getLsbD_ushiftRight,
      Nat.add_sub_cancel' (Nat.not_lt.mp low)] at bit
    rw [bit]

/-- Addresses with the same leading bits have the same highest address. -/
theorem highest_eq_of_shiftRight_eq
    (within : leading ≤ width)
    {left right : BitVec width}
    (same : left >>> (width - leading) = right >>> (width - leading)) :
    highest leading left = highest leading right := by
  apply BitVec.eq_of_getLsbD_eq
  intro index inside
  simp only [highest, BitVec.getLsbD_or, BitVec.getLsbD_ushiftRight, BitVec.getLsbD_allOnes]
  by_cases low : leading + index < width
  · simp [low]
  · have bit := congrArg (fun bits => bits.getLsbD (index - (width - leading))) same
    rw [BitVec.getLsbD_ushiftRight, BitVec.getLsbD_ushiftRight,
      Nat.add_sub_cancel' (by omega)] at bit
    rw [bit]

/-- An address lies between the ends of a subnet when it has its leading bits. -/
theorem spans_iff
    (within : leading ≤ width)
    (bits address : BitVec width) :
    spans leading bits address = true ↔ SharesLeading leading address bits := by
  rw [sharesLeading_iff within, spans, Bool.and_eq_true, decide_eq_true_eq, decide_eq_true_eq]
  constructor
  · rintro ⟨notBelow, notAbove⟩
    -- Dropping the last bits keeps the order, and the two ends then are the same.
    have low := BitVec.le_def.mp notBelow
    have high := BitVec.le_def.mp notAbove
    have lowShifted : (lowest leading bits >>> (width - leading)).toNat =
        (bits >>> (width - leading)).toNat :=
      congrArg BitVec.toNat (lowest_shiftRight bits)
    have highShifted := congrArg BitVec.toNat (highest_shiftRight within bits)
    apply BitVec.eq_of_toNat_eq
    simp only [BitVec.toNat_ushiftRight, Nat.shiftRight_eq_div_pow] at lowShifted highShifted ⊢
    refine Nat.le_antisymm ?_ ?_
    · exact highShifted ▸ Nat.div_le_div_right high
    · exact lowShifted ▸ Nat.div_le_div_right low
  · intro same
    rw [← lowest_eq_of_shiftRight_eq same, ← highest_eq_of_shiftRight_eq within same]
    refine ⟨BitVec.le_def.mpr ?_, BitVec.le_def.mpr ?_⟩
    · rw [lowest, BitVec.toNat_and]
      exact Nat.and_le_left
    · rw [highest, BitVec.toNat_or]
      exact Nat.left_le_or

/-- A subnet contains the addresses that it covers. -/
theorem contains_iff_covers (subnet : Subnet) (address : Address) :
    subnet.contains address = true ↔ subnet.Covers address := by
  cases subnet with
  | v4 bits leading within =>
      cases address with
      | v4 address => exact spans_iff within bits address
      | v6 address => exact iff_of_false Bool.false_ne_true id
  | v6 bits leading within =>
      cases address with
      | v4 address => exact iff_of_false Bool.false_ne_true id
      | v6 address => exact spans_iff within bits address

end Subnet
end Network
end Telemetry
