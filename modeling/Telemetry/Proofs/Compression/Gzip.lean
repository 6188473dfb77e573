import Telemetry.Compression.Gzip
import Telemetry.Proofs.Bytes

/-!
# Stored blocks and trailers

Inflating stored blocks gives their bytes, block by block, and leaves what
follows the last one, and the trailer of a content has its checksum and its
length.
-/

namespace Telemetry
namespace Compression

/-! ## Bits -/

/-- The three bits of a stored block's header. -/
theorem readBits_header {isLast : Bool} (rest : Bytes) :
    readBits 3 (Bits.ofBytes ((if isLast then 1 else 0) :: rest)) =
      .ok (if isLast then 1 else 0, ⟨0, 5, rest⟩) := by
  cases isLast <;> cases rest <;> simp [readBits, Bits.take?, Bits.hold?, Bits.ofBytes]

/-- Sixteen bits at the start of a byte are a number of two bytes. -/
theorem readBits_ofNatLittle
    {value : Nat}
    (small : value < 65536)
    (rest : Bytes) :
    readBits 16 ⟨0, 0, Bytes.ofNatLittle 2 value ++ rest⟩ = .ok (value, ⟨0, 0, rest⟩) := by
  have low : (UInt8.ofNat (value % 256)).toNat = value % 256 := by
    simp [UInt8.toNat_ofNat']
  have high : (UInt8.ofNat (value / 256 % 256)).toNat = value / 256 := by
    rw [UInt8.toNat_ofNat', Nat.mod_mod, Nat.mod_eq_of_lt (by omega)]
  have whole : value % 256 + (value / 256) <<< 8 = value := by
    rw [Nat.shiftLeft_eq]
    omega
  have gone : value >>> 16 = 0 := by
    rw [Nat.shiftRight_eq_div_pow]
    omega
  have kept : value % 65536 = value := Nat.mod_eq_of_lt small
  have held : Bits.hold? 16 0 0 (Bytes.ofNatLittle 2 value ++ rest) = some ⟨value, 16, rest⟩ := by
    simp only [Bytes.ofNatLittle, List.cons_append, List.nil_append]
    rw [Bits.hold?, if_neg (by decide), Bits.hold?, if_neg (by decide)]
    simp only [low, high, Nat.zero_add, Nat.shiftLeft_zero, whole]
    cases rest <;> rfl
  simp [readBits, Bits.take?, held, gone, kept]

/-! ## Stored blocks -/

@[simp] theorem size_appendBytes (output : ByteArray) (bytes : Bytes) :
    (appendBytes output bytes).size = output.size + bytes.length := by
  induction bytes generalizing output with
  | nil => rfl
  | cons byte rest inductionHypothesis =>
      simp only [appendBytes, inductionHypothesis, ByteArray.size_push, List.length_cons]
      omega

@[simp] theorem bytesOf_appendBytes (output : ByteArray) (bytes : Bytes) :
    Gzip.bytesOf (appendBytes output bytes) = Gzip.bytesOf output ++ bytes := by
  induction bytes generalizing output with
  | nil => simp [appendBytes]
  | cons byte rest inductionHypothesis =>
      have pushed : Gzip.bytesOf (output.push byte) = Gzip.bytesOf output ++ [byte] := by
        simp [Gzip.bytesOf]
      rw [appendBytes, inductionHypothesis, pushed, List.append_assoc, List.singleton_append]

theorem appendBytes_append (output : ByteArray) (front back : Bytes) :
    appendBytes output (front ++ back) = appendBytes (appendBytes output front) back := by
  induction front generalizing output with
  | nil => rfl
  | cons byte rest inductionHypothesis => exact inductionHypothesis (output.push byte)

/-- The length of a stored block is read from its header. -/
theorem readStoredLength_storedBlock
    {bytes : Bytes}
    (fits : bytes.length ≤ storedLimit)
    (rest : Bytes) :
    readStoredLength ⟨0, 5, Bytes.ofNatLittle 2 bytes.length ++
      (Bytes.ofNatLittle 2 (storedLimit - bytes.length) ++ rest)⟩ = .ok (bytes.length, rest) := by
  have complement : bytes.length + (storedLimit - bytes.length) = 0xffff :=
    Nat.add_sub_cancel' fits
  unfold storedLimit at fits complement
  unfold readStoredLength Bits.align storedLimit
  simp only [readBits_ofNatLittle (show bytes.length < 65536 by omega),
    readBits_ofNatLittle (show 65535 - bytes.length < 65536 by omega), complement, if_true]

/-- A step over a stored block gives its bytes and goes on behind it, unless it is the last one. -/
theorem headerStep_storedBlock
    {bytes : Bytes}
    (fits : bytes.length ≤ storedLimit)
    (isLast : Bool)
    (rest : Bytes)
    (output : ByteArray) :
    headerStep (Bits.ofBytes (storedBlock isLast bytes ++ rest)) output =
      if isLast then .ended ⟨appendBytes output bytes, .finished rest⟩
      else .ongoing .header (Bits.ofBytes rest) (appendBytes output bytes) := by
  have enough : Bytes.hasAtLeast bytes.length (bytes ++ rest) = true := by
    rw [Bytes.hasAtLeast_iff, List.length_append]
    omega
  have split : storedBlock isLast bytes ++ rest = (if isLast then 1 else 0) ::
      (Bytes.ofNatLittle 2 bytes.length ++
        (Bytes.ofNatLittle 2 (storedLimit - bytes.length) ++ (bytes ++ rest))) := by
    simp [storedBlock]
  rw [split, headerStep, readBits_header]
  cases isLast <;>
    simp [storedStep, readStoredLength_storedBlock fits, enough]

/-- Inflating stored blocks gives the bytes that they were made of. -/
theorem inflateSteps_storedBlocks
    {wanted fuel : Nat} {bytes rest : Bytes} {output : ByteArray}
    (more : output.size + bytes.length < wanted)
    (fuelled : bytes.length < fuel) :
    inflateSteps wanted fuel .header (Bits.ofBytes (storedBlocks bytes ++ rest)) output =
      ⟨appendBytes output bytes, .finished rest⟩ := by
  induction bytes using storedBlocks.induct generalizing fuel output with
  | case1 bytes long inductionHypothesis =>
      have length := Bytes.hasAtLeast_iff.mp long
      obtain ⟨fuel, rfl⟩ := Nat.exists_eq_add_one_of_ne_zero (show fuel ≠ 0 by omega)
      have taken : (bytes.take storedLimit).length = storedLimit := by
        rw [List.length_take]
        omega
      have left : (bytes.drop storedLimit).length = bytes.length - storedLimit := List.length_drop
      have positive : 0 < storedLimit := by decide
      have step := headerStep_storedBlock (Nat.le_of_eq taken) false
        (storedBlocks (bytes.drop storedLimit) ++ rest) output
      rw [storedBlocks, if_pos long, List.append_assoc, inflateSteps, if_neg (by omega),
        inflateStep, step]
      change inflateSteps wanted fuel .header _ _ = _
      rw [inductionHypothesis (by rw [size_appendBytes]; omega) (by omega), ← appendBytes_append,
        List.take_append_drop]
  | case2 bytes short =>
      obtain ⟨fuel, rfl⟩ := Nat.exists_eq_add_one_of_ne_zero (show fuel ≠ 0 by omega)
      have fits : bytes.length ≤ storedLimit := by
        have notLong := mt Bytes.hasAtLeast_iff.mpr short
        omega
      have step := headerStep_storedBlock fits true rest output
      rw [storedBlocks, if_neg short, inflateSteps, if_neg (by omega), inflateStep, step]
      rfl

theorem length_le_length_storedBlocks (bytes : Bytes) :
    bytes.length ≤ (storedBlocks bytes).length := by
  induction bytes using storedBlocks.induct with
  | case1 bytes long inductionHypothesis =>
      rw [storedBlocks, if_pos long]
      simp only [List.length_append, storedBlock, List.length_cons, List.length_take,
        List.length_drop, Bytes.length_ofNatLittle] at *
      omega
  | case2 bytes short =>
      rw [storedBlocks, if_neg short]
      simp [storedBlock]
      omega

/-- Inflating the stored blocks of a content gives the content, if as much is wanted. -/
theorem inflate_storedBlocks
    {wanted : Nat} {bytes : Bytes}
    (more : bytes.length < wanted)
    (rest : Bytes) :
    inflate wanted (storedBlocks bytes ++ rest) =
      ⟨appendBytes ByteArray.empty bytes, .finished rest⟩ := by
  have length := length_le_length_storedBlocks bytes
  refine inflateSteps_storedBlocks (by simpa using more) ?_
  rw [List.length_append]
  omega

namespace Gzip

/-! ## Members -/

theorem skipHeader_header (rest : Bytes) : skipHeader (header ++ rest) = .ok rest := rfl

theorem crc32_lt (bytes : Bytes) : crc32 bytes < UInt32.size :=
  UInt32.toNat_lt_size _

/-- The trailer of a content is right. -/
theorem checkTrailer_trailer (content : Bytes) :
    checkTrailer content (trailer content) = .ok content := by
  have checksum : Bytes.toNatLittle (Bytes.ofNatLittle 4 (crc32 content)) = crc32 content := by
    rw [Bytes.toNatLittle_ofNatLittle]
    exact Nat.mod_eq_of_lt (crc32_lt content)
  have length : Bytes.toNatLittle (Bytes.ofNatLittle 4 content.length) =
      content.length % UInt32.size :=
    Bytes.toNatLittle_ofNatLittle 4 content.length
  have front : (trailer content).take 4 = Bytes.ofNatLittle 4 (crc32 content) :=
    List.take_left' (Bytes.length_ofNatLittle 4 _)
  have back : ((trailer content).drop 4).take 4 = Bytes.ofNatLittle 4 content.length := by
    rw [trailer, List.drop_left' (Bytes.length_ofNatLittle 4 _)]
    exact List.take_of_length_le (by rw [Bytes.length_ofNatLittle])
  have enough : ¬ (trailer content).length < 8 := by simp [trailer]
  rw [checkTrailer, if_neg enough, front, back, checksum, length, if_pos ⟨rfl, rfl⟩]

theorem le_wantedFor (count : Nat) : count ≤ wantedFor (count - 1) := by
  unfold wantedFor windowSize
  omega

end Gzip
end Compression
end Telemetry
