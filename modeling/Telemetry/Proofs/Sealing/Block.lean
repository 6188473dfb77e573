import Mathlib.FieldTheory.Finite.Basic
import Telemetry.Proofs.Bytes
import Telemetry.Sealing.Block

/-!
# What is sealed can be opened

Raising to the two exponents of a key pair gives a number below the modulus
back, by the little theorem of Fermat for each of the two primes.  Padding is
taken off by adding both masks once more.  So a block that was sealed with one
half of a pair is opened by the other.
-/

namespace Telemetry
namespace Sealing

/-- Two keys are the halves of a pair: their modulus is the product of two different primes, and
their exponents undo each other modulo each prime less one. -/
def IsPair (sealer : PublicKey) (opener : PrivateKey) : Prop :=
  ∃ first second, first.Prime ∧ second.Prime ∧ first ≠ second ∧
    sealer.modulus = first * second ∧ opener.modulus = first * second ∧
    sealer.exponent * opener.exponent % (first - 1) = 1 ∧
    sealer.exponent * opener.exponent % (second - 1) = 1

/-! ## Powers -/

theorem powerMod_eq (base exponent modulus : Nat) :
    powerMod base exponent modulus = base ^ exponent % modulus := by
  fun_induction powerMod base exponent modulus with
  | case1 => simp
  | case2 exponent positive half square odd inductionHypothesis =>
      have root : half ≡ base ^ (exponent / 2) [MOD modulus] := by
        rw [show half = _ from inductionHypothesis]
        exact Nat.mod_modEq _ _
      have squared : square ≡ base ^ (exponent / 2) * base ^ (exponent / 2) [MOD modulus] :=
        (Nat.mod_modEq _ _).trans (root.mul root)
      have split : exponent = exponent / 2 + exponent / 2 + 1 := by omega
      conv_rhs => rw [split, pow_succ, pow_add]
      exact squared.mul_right base
  | case3 exponent positive half square even inductionHypothesis =>
      have root : half ≡ base ^ (exponent / 2) [MOD modulus] := by
        rw [show half = _ from inductionHypothesis]
        exact Nat.mod_modEq _ _
      have split : exponent = exponent / 2 + exponent / 2 := by omega
      conv_rhs => rw [split, pow_add]
      exact root.mul root

/-- A number comes back modulo a prime from a power that is one modulo the prime less one. -/
theorem pow_modEq_self
    {prime exponent : Nat}
    (isPrime : prime.Prime)
    (isOne : exponent % (prime - 1) = 1)
    (value : Nat) :
    value ^ exponent ≡ value [MOD prime] := by
  have := Fact.mk isPrime
  have split : exponent = (prime - 1) * (exponent / (prime - 1)) + 1 := by
    conv_lhs => rw [← Nat.div_add_mod exponent (prime - 1), isOne]
  rw [← ZMod.natCast_eq_natCast_iff, Nat.cast_pow, split, pow_succ, pow_mul]
  by_cases zero : (value : ZMod prime) = 0
  · rw [zero, mul_zero]
  · rw [ZMod.pow_card_sub_one_eq_one zero, one_pow, one_mul]

/-- A number below the modulus of a pair comes back when it is raised to both exponents. -/
theorem IsPair.powerMod_powerMod
    {sealer : PublicKey} {opener : PrivateKey} {value : Nat}
    (isPair : IsPair sealer opener)
    (small : value < sealer.modulus) :
    powerMod (powerMod value sealer.exponent sealer.modulus) opener.exponent opener.modulus =
      value := by
  obtain ⟨first, second, firstPrime, secondPrime, different, sealing, opening, undoneFirst,
    undoneSecond⟩ := isPair
  have coprime : first.Coprime second := (Nat.coprime_primes firstPrime secondPrime).mpr different
  have back : value ^ (sealer.exponent * opener.exponent) ≡ value [MOD first * second] :=
    (Nat.modEq_and_modEq_iff_modEq_mul coprime).mp
      ⟨pow_modEq_self firstPrime undoneFirst value, pow_modEq_self secondPrime undoneSecond value⟩
  rw [sealing] at small
  rw [powerMod_eq, powerMod_eq, sealing, opening, ← Nat.pow_mod, ← pow_mul, back,
    Nat.mod_eq_of_lt small]

theorem IsPair.size_eq
    {sealer : PublicKey} {opener : PrivateKey}
    (isPair : IsPair sealer opener) :
    opener.size = sealer.size := by
  obtain ⟨first, second, -, -, -, sealing, opening, -⟩ := isPair
  rw [PrivateKey.size, PublicKey.size, sealing, opening]

/-! ## Sizes -/

/-- A number has as many bytes as it needs and no more. -/
theorem byteLength_bounds {value : Nat} (positive : 0 < value) :
    256 ^ (byteLength value - 1) ≤ value ∧ value < 256 ^ byteLength value := by
  have nonzero : value ≠ 0 := Nat.pos_iff_ne_zero.mp positive
  have low := Nat.log2_self_le nonzero
  have high := Nat.lt_log2_self (n := value)
  have bytes : byteLength value = Nat.log2 value / 8 + 1 := by
    rw [byteLength, bitLength, if_neg nonzero]
    omega
  have base : (256 : Nat) = 2 ^ 8 := rfl
  rw [bytes, base, ← pow_mul, ← pow_mul]
  constructor
  · exact (Nat.pow_le_pow_right (by decide) (by omega)).trans low
  · exact high.trans_le (Nat.pow_le_pow_right (by decide) (by omega))

/-! ## Masks and padding -/

theorem length_mask (seed : Bytes) (length : Nat) : (mask seed length).length = length := by
  have blocks : ((List.range (length / hashLength + 1)).map fun counter =>
      Digest.sha256 (seed ++ Bytes.ofNatBig 4 counter)).flatten.length =
      (length / hashLength + 1) * 32 := by
    simp [List.length_flatten, Function.comp_def]
  rw [mask, List.length_take, blocks, hashLength]
  omega

theorem length_applyMask (bytes : Bytes) (seed : Bytes) :
    (applyMask bytes (mask seed bytes.length)).length = bytes.length := by
  simp [applyMask, length_mask]

/-- Adding a mask twice changes nothing. -/
theorem applyMask_applyMask
    {bytes mask : Bytes}
    (covers : bytes.length ≤ mask.length) :
    applyMask (applyMask bytes mask) mask = bytes := by
  induction bytes generalizing mask with
  | nil => rfl
  | cons byte rest inductionHypothesis =>
      cases mask with
      | nil => simp at covers
      | cons other others =>
          have once : byte ^^^ other ^^^ other = byte := by
            rw [UInt8.xor_assoc, UInt8.xor_self, UInt8.xor_zero]
          have rest_eq := @inductionHypothesis others (by simpa using covers)
          simp only [applyMask, List.zipWith_cons_cons, once] at rest_eq ⊢
          rw [rest_eq]

/-- The message of a padded block is found behind the zeros. -/
theorem dropWhile_zeros (count : Nat) (message : Bytes) :
    (List.replicate count (0 : UInt8) ++ 1 :: message).dropWhile (· == 0) = 1 :: message := by
  induction count with
  | zero => rfl
  | succ count inductionHypothesis =>
      rw [List.replicate_succ, List.cons_append, List.dropWhile_cons_of_pos (by rfl),
        inductionHypothesis]

theorem length_labelHash : labelHash.length = hashLength := Digest.length_sha256 []

theorem length_padBlock
    {size : Nat} {seed message : Bytes}
    (seeded : seed.length = hashLength)
    (fits : message.length + overhead ≤ size) :
    (padBlock size seed message).length = size := by
  have maskedSeed (other : Bytes) :
      (applyMask seed (mask other hashLength)).length = hashLength := by
    simp [applyMask, length_mask, seeded]
  have data : (labelHash ++ List.replicate (size - overhead - message.length) 0 ++
      1 :: message).length = size - hashLength - 1 := by
    unfold overhead at fits ⊢
    simp only [List.length_append, length_labelHash, List.length_replicate, List.length_cons]
    omega
  unfold overhead at fits
  simp only [padBlock]
  rw [List.cons_append, List.length_cons, List.length_append, maskedSeed, length_applyMask, data]
  omega

/-- A padded message is found again. -/
theorem unpadBlock?_padBlock
    {size : Nat} {seed message : Bytes}
    (seeded : seed.length = hashLength) :
    unpadBlock? (padBlock size seed message) = some message := by
  let zeros : Bytes := List.replicate (size - overhead - message.length) 0
  let data := labelHash ++ zeros ++ 1 :: message
  let maskedData := applyMask data (mask seed data.length)
  let maskedSeed := applyMask seed (mask maskedData hashLength)
  have seedLength : maskedSeed.length = hashLength := by
    change (applyMask seed (mask maskedData hashLength)).length = hashLength
    rw [← seeded]
    exact length_applyMask seed maskedData
  have dataLength : maskedData.length = data.length := length_applyMask data seed
  have front : (maskedSeed ++ maskedData).take hashLength = maskedSeed := List.take_left' seedLength
  have back : (maskedSeed ++ maskedData).drop hashLength = maskedData := List.drop_left' seedLength
  have seedBack : applyMask maskedSeed (mask maskedData hashLength) = seed :=
    applyMask_applyMask (by rw [length_mask, seeded])
  have dataBack : applyMask maskedData (mask seed maskedData.length) = data := by
    rw [dataLength]
    exact applyMask_applyMask (by rw [length_mask])
  have label : data.take hashLength = labelHash := by
    change ((labelHash ++ zeros) ++ 1 :: message).take hashLength = labelHash
    rw [List.append_assoc]
    exact List.take_left' length_labelHash
  have padded : data.drop hashLength = zeros ++ 1 :: message := by
    change ((labelHash ++ zeros) ++ 1 :: message).drop hashLength = _
    rw [List.append_assoc]
    exact List.drop_left' length_labelHash
  change unpadBlock? (0 :: (maskedSeed ++ maskedData)) = some message
  simp only [unpadBlock?, front, back, seedBack, dataBack, label, padded, if_true, zeros,
    dropWhile_zeros]

/-! ## Blocks -/

/-- A padded message is a number below the modulus. -/
theorem toNatBig_padBlock_lt
    {key : PublicKey} {seed message : Bytes}
    (seeded : seed.length = hashLength)
    (fits : message.length + overhead ≤ key.size)
    (positive : 0 < key.modulus) :
    Bytes.toNatBig (padBlock key.size seed message) < key.modulus := by
  have length := length_padBlock seeded fits
  have small : Bytes.toNatBig (padBlock key.size seed message) < 256 ^ (key.size - 1) := by
    unfold padBlock at length ⊢
    rw [List.cons_append, List.length_cons] at length
    rw [List.cons_append, Bytes.toNatBig_zero_cons, ← Nat.eq_sub_of_add_eq length]
    exact Bytes.toNatBig_lt _
  exact small.trans_le (byteLength_bounds positive).1

/-- What one half of a pair seals is as long as a block, and the other half opens it. -/
theorem IsPair.openBlock?_sealBlock?
    {sealer : PublicKey} {opener : PrivateKey} {seed message : Bytes}
    (isPair : IsPair sealer opener)
    (seeded : seed.length = hashLength)
    (fits : message.length + overhead ≤ sealer.size) :
    ∃ block, sealer.sealBlock? seed message = some block ∧ block.length = sealer.size ∧
      opener.openBlock? block = some message := by
  have size := isPair.size_eq
  have modulus : opener.modulus = sealer.modulus := by
    obtain ⟨first, second, -, -, -, sealing, opening, -⟩ := isPair
    rw [sealing, opening]
  have positive : 0 < sealer.modulus := by
    obtain ⟨first, second, firstPrime, secondPrime, -, sealing, -⟩ := isPair
    rw [sealing]
    exact Nat.mul_pos firstPrime.pos secondPrime.pos
  have small := toNatBig_padBlock_lt seeded fits positive
  have back := isPair.powerMod_powerMod small
  have sealedSmall :
      powerMod (Bytes.toNatBig (padBlock sealer.size seed message)) sealer.exponent
        sealer.modulus < sealer.modulus := by
    rw [powerMod_eq]
    exact Nat.mod_lt _ positive
  refine ⟨_, if_pos fits, Bytes.length_ofNatBig _ _, ?_⟩
  have number := Bytes.toNatBig_ofNatBig (sealedSmall.trans (byteLength_bounds positive).2)
  rw [← PublicKey.size] at number
  have padded := Bytes.ofNatBig_toNatBig (padBlock sealer.size seed message)
  rw [length_padBlock seeded fits] at padded
  have wide : overhead ≤ sealer.size := by omega
  rw [modulus] at back
  simp only [PrivateKey.openBlock?, size, modulus, number]
  rw [if_pos ⟨wide, sealedSmall⟩, back, padded]
  exact unpadBlock?_padBlock seeded

end Sealing
end Telemetry
