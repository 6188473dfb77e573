import Mathlib.Tactic.Ring
import Telemetry.Bytes

/-!
# Numbers and hexadecimal digits in byte strings

A number that fits its width comes back from its base-256 digits, in either
order, and a byte string comes back from its hexadecimal spelling.
-/

namespace Telemetry
namespace Bytes

/-! ## The least significant byte first -/

/-- The digits of a number give it back as far as the width reaches. -/
theorem toNatLittle_ofNatLittle (width value : Nat) :
    toNatLittle (ofNatLittle width value) = value % 256 ^ width := by
  induction width generalizing value with
  | zero => simp [ofNatLittle, toNatLittle, Nat.mod_one]
  | succ width inductionHypothesis =>
      have low : (UInt8.ofNat (value % 256)).toNat = value % 256 := by
        simp [UInt8.toNat_ofNat']
      simp only [ofNatLittle, toNatLittle, inductionHypothesis, low]
      rw [Nat.pow_succ', Nat.mod_mul]

theorem toNatLittle_append (front back : Bytes) :
    toNatLittle (front ++ back) = toNatLittle front + 256 ^ front.length * toNatLittle back := by
  induction front with
  | nil => simp [toNatLittle]
  | cons byte rest inductionHypothesis =>
      simp only [List.cons_append, toNatLittle, inductionHypothesis, List.length_cons]
      ring

theorem toNatLittle_lt (bytes : Bytes) : toNatLittle bytes < 256 ^ bytes.length := by
  induction bytes with
  | nil => simp [toNatLittle]
  | cons byte rest inductionHypothesis =>
      have small : byte.toNat < 256 := byte.toNat_lt
      simp only [toNatLittle, List.length_cons, Nat.pow_succ]
      omega

/-- A byte string comes back from its number, when its length is known. -/
theorem ofNatLittle_toNatLittle (bytes : Bytes) :
    ofNatLittle bytes.length (toNatLittle bytes) = bytes := by
  induction bytes with
  | nil => rfl
  | cons byte rest inductionHypothesis =>
      have small : byte.toNat < 256 := byte.toNat_lt
      have low : (byte.toNat + 256 * toNatLittle rest) % 256 = byte.toNat := by omega
      have high : (byte.toNat + 256 * toNatLittle rest) / 256 = toNatLittle rest := by omega
      simp [ofNatLittle, toNatLittle, low, high, inductionHypothesis]

/-! ## The most significant byte first -/

theorem toNatBig_eq (bytes : Bytes) : toNatBig bytes = toNatLittle bytes.reverse := by
  have general : ∀ total, bytes.foldl (fun total byte => total * 256 + byte.toNat) total =
      toNatLittle bytes.reverse + 256 ^ bytes.length * total := by
    induction bytes with
    | nil => simp [toNatLittle]
    | cons byte rest inductionHypothesis =>
        intro total
        simp only [List.foldl_cons, inductionHypothesis, List.reverse_cons, toNatLittle_append,
          toNatLittle, List.length_reverse, List.length_cons]
        ring
  simpa [toNatBig] using general 0

/-- A number that fits comes back from its digits. -/
theorem toNatBig_ofNatBig
    {width value : Nat}
    (fits : value < 256 ^ width) :
    toNatBig (ofNatBig width value) = value := by
  rw [toNatBig_eq, ofNatBig, List.reverse_reverse, toNatLittle_ofNatLittle, Nat.mod_eq_of_lt fits]

/-- A byte string comes back from its number, when its length is known. -/
theorem ofNatBig_toNatBig (bytes : Bytes) : ofNatBig bytes.length (toNatBig bytes) = bytes := by
  have back := ofNatLittle_toNatLittle bytes.reverse
  rw [List.length_reverse] at back
  rw [ofNatBig, toNatBig_eq, back, List.reverse_reverse]

/-- A byte string that begins with a zero is the number of what follows. -/
theorem toNatBig_zero_cons (bytes : Bytes) : toNatBig (0 :: bytes) = toNatBig bytes := by
  simp [toNatBig]

theorem toNatBig_lt (bytes : Bytes) : toNatBig bytes < 256 ^ bytes.length := by
  rw [toNatBig_eq, ← List.length_reverse]
  exact toNatLittle_lt bytes.reverse

/-! ## Hexadecimal digits -/

/-- A digit below sixteen comes back from its spelling. -/
theorem hexValue?_hexDigit :
    ∀ {value : Nat}, value < 16 -> hexValue? (hexDigit value) = some value := by
  decide

theorem readHexPairs?_hexDigits (done bytes : Bytes) :
    readHexPairs? done (hexDigits bytes) = some (done.reverse ++ bytes) := by
  induction bytes generalizing done with
  | nil => simp [hexDigits, readHexPairs?]
  | cons byte rest inductionHypothesis =>
      have small : byte.toNat < 256 := byte.toNat_lt
      have high := hexValue?_hexDigit (show byte.toNat / 16 < 16 by omega)
      have low := hexValue?_hexDigit (show byte.toNat % 16 < 16 by omega)
      have whole : UInt8.ofNat (16 * (byte.toNat / 16) + byte.toNat % 16) = byte := by
        rw [Nat.div_add_mod, UInt8.ofNat_toNat]
      change readHexPairs? done (hexDigit (byte.toNat / 16) :: hexDigit (byte.toNat % 16) ::
        hexDigits rest) = _
      simp only [readHexPairs?, high, low, whole, inductionHypothesis, List.reverse_cons,
        List.append_assoc, List.singleton_append]

/-- A byte string comes back from its hexadecimal spelling. -/
theorem ofHex?_hex (bytes : Bytes) : ofHex? (hex bytes) = some bytes := by
  rw [ofHex?, hex, String.toList_ofList, readHexPairs?_hexDigits]
  rfl

@[simp] theorem length_hexDigits (bytes : Bytes) : (hexDigits bytes).length = 2 * bytes.length := by
  induction bytes with
  | nil => rfl
  | cons byte rest inductionHypothesis =>
      change (hexDigits rest).length + 2 = _
      rw [inductionHypothesis, List.length_cons, Nat.mul_succ]

/-- The byte of two digits is spelled with them. -/
theorem hexDigits_of_pair
    {upper lower : Nat}
    (upperSmall : upper < 16)
    (lowerSmall : lower < 16)
    (rest : Bytes) :
    hexDigits (UInt8.ofNat (16 * upper + lower) :: rest) =
      hexDigit upper :: hexDigit lower :: hexDigits rest := by
  have byte : (UInt8.ofNat (16 * upper + lower)).toNat = 16 * upper + lower := by
    rw [UInt8.toNat_ofNat', Nat.mod_eq_of_lt (by omega)]
  have high : (16 * upper + lower) / 16 = upper := by omega
  have low : (16 * upper + lower) % 16 = lower := by omega
  rw [hexDigits, List.flatMap_cons, byte, high, low]
  rfl

/-- Letters that are digits in the case in which digits are spelled are read only as the byte string
whose spelling they are. -/
theorem eq_hexDigits_of_readHexPairs?
    {done bytes : Bytes} {letters : List Char}
    (spelled : ∀ letter ∈ letters, ∃ value < 16, letter = hexDigit value)
    (read : readHexPairs? done letters = some bytes) :
    ∃ later, bytes = done.reverse ++ later ∧ letters = hexDigits later := by
  fun_induction readHexPairs? done letters with
  | case1 done =>
      cases read
      exact ⟨[], (List.append_nil _).symm, rfl⟩
  | case2 => cases read
  | case3 done high low rest upper lower isLower isUpper inductionHypothesis =>
      obtain ⟨upperValue, upperSmall, rfl⟩ := spelled high (by simp)
      obtain ⟨lowerValue, lowerSmall, rfl⟩ := spelled low (by simp)
      rw [hexValue?_hexDigit upperSmall] at isUpper
      rw [hexValue?_hexDigit lowerSmall] at isLower
      cases isUpper
      cases isLower
      obtain ⟨later, rfl, rfl⟩ := inductionHypothesis
        (fun letter present => spelled letter (by simp [present])) read
      refine ⟨UInt8.ofNat (16 * upper + lower) :: later, ?_, ?_⟩
      · rw [List.reverse_cons, List.append_assoc, List.singleton_append]
      · rw [hexDigits_of_pair upperSmall lowerSmall]
  | case4 => cases read

end Bytes
end Telemetry
