import Telemetry.Json.Scan
import Telemetry.Json.Writer
import Telemetry.Proofs.Text.Encoding

/-!
# Written texts are read as themselves

Every character of a text is written as an escape that stands for its bytes, or
as its bytes, none of which ends the text or begins an escape.
-/

namespace Telemetry
namespace Json

open Bytes

/-! ## Bytes that stand for themselves -/

/-- A byte inside a string stands for itself. -/
def IsPlain (byte : UInt8) : Prop :=
  byte ≠ 0x22 ∧ byte ≠ 0x5c ∧ 0x20 ≤ byte.toNat

theorem readTextBytes_plain
    {byte : UInt8}
    (plain : IsPlain byte)
    (done rest : Bytes) :
    readTextBytes done (byte :: rest) = readTextBytes (byte :: done) rest := by
  have noControl : ¬ byte < 0x20 := by
    rw [UInt8.lt_iff_toNat_lt]
    exact Nat.not_lt.mpr plain.2.2
  rw [readTextBytes, if_neg plain.1, if_neg plain.2.1, if_neg noControl]

theorem readTextBytes_plains
    {bytes : Bytes}
    (plain : ∀ byte ∈ bytes, IsPlain byte)
    (done rest : Bytes) :
    readTextBytes done (bytes ++ rest) = readTextBytes (bytes.reverse ++ done) rest := by
  induction bytes generalizing done with
  | nil => rfl
  | cons byte others inductionHypothesis =>
      rw [List.cons_append, readTextBytes_plain (plain byte List.mem_cons_self),
        inductionHypothesis fun other present => plain other (List.mem_cons_of_mem _ present),
        List.reverse_cons, List.append_assoc, List.singleton_append]

theorem isPlain_of_le {value : Nat} (large : 0x80 ≤ value) (small : value < 0x100) :
    IsPlain (UInt8.ofNat value) := by
  have number : (UInt8.ofNat value).toNat = value := by
    rw [UInt8.toNat_ofNat', Nat.mod_eq_of_lt small]
  have differs {other : UInt8} (less : other.toNat < 0x80) : UInt8.ofNat value ≠ other := by
    rintro rfl
    omega
  exact ⟨differs (by decide), differs (by decide), by omega⟩

theorem isPlain_continuation (value : Nat) : IsPlain (continuation value) :=
  isPlain_of_le (by omega) (by omega)

/-- A character that is neither escaped nor a control character is written as plain bytes. -/
theorem isPlain_of_mem_utf8EncodeChar
    {letter : Char}
    (noQuote : letter ≠ '"')
    (noBackslash : letter ≠ '\\')
    (noControl : 32 ≤ letter.toNat) :
    ∀ byte ∈ String.utf8EncodeChar letter, IsPlain byte := by
  rcases utf8EncodeChar_cases letter with
    ⟨small, one⟩ | ⟨large, small, two⟩ | ⟨large, small, three⟩ | ⟨large, small, four⟩
  · have number : (UInt8.ofNat letter.toNat).toNat = letter.toNat := by
      rw [UInt8.toNat_ofNat', Nat.mod_eq_of_lt (by omega)]
    have differs {other : Char} (ascii : other.toNat < 0x80) (notOther : letter ≠ other) :
        UInt8.ofNat letter.toNat ≠ UInt8.ofNat other.toNat := by
      intro same
      have points := congrArg UInt8.toNat same
      rw [number, UInt8.toNat_ofNat', Nat.mod_eq_of_lt (by omega)] at points
      exact notOther (Char.toNat_inj.mp points)
    rw [one]
    intro byte present
    rw [List.mem_singleton.mp present]
    exact ⟨differs (by decide) noQuote, differs (by decide) noBackslash, by omega⟩
  · rw [two]
    simp only [List.forall_mem_cons, List.not_mem_nil, false_implies, implies_true, and_true]
    exact ⟨isPlain_of_le (by omega) (by omega), isPlain_continuation _⟩
  · rw [three]
    simp only [List.forall_mem_cons, List.not_mem_nil, false_implies, implies_true, and_true]
    exact ⟨isPlain_of_le (by omega) (by omega), isPlain_continuation _, isPlain_continuation _⟩
  · rw [four]
    simp only [List.forall_mem_cons, List.not_mem_nil, false_implies, implies_true, and_true]
    exact ⟨isPlain_of_le (by omega) (by omega), isPlain_continuation _, isPlain_continuation _,
      isPlain_continuation _⟩

/-! ## Escapes -/

theorem readTextBytes_escape
    {piece after rest : Bytes}
    (read : readEscape rest = .ok (piece, after))
    (done : Bytes) :
    readTextBytes done (0x5c :: rest) = readTextBytes (piece.reverse ++ done) after := by
  rw [readTextBytes, if_neg (by decide), if_pos rfl]
  split
  next fault failed =>
    rw [read] at failed
    cases failed
  next found beyond readIt =>
    rw [read] at readIt
    obtain ⟨rfl, rfl⟩ := Prod.mk.inj (Except.ok.inj readIt)
    rfl

/-- An escape by letter. -/
theorem readEscape_letter
    {kind byte : UInt8}
    (stands : letterEscape? kind = some byte)
    (rest : Bytes) :
    readEscape (kind :: rest) = .ok ([byte], rest) := by
  rw [readEscape, stands]

theorem hexByte?_hexLetter : ∀ value < 16,
    (String.utf8EncodeChar (hexLetter value)).map hexByte? = [some value] := by
  decide

/-- A hexadecimal digit is one byte, which is read as its value. -/
theorem exists_hexByte {value : Nat} (small : value < 16) :
    ∃ byte, String.utf8EncodeChar (hexLetter value) = [byte] ∧ hexByte? byte = some value := by
  have spelled := hexByte?_hexLetter value small
  match encoded : String.utf8EncodeChar (hexLetter value) with
  | [] => simp [encoded] at spelled
  | [byte] => exact ⟨byte, rfl, by simpa [encoded] using spelled⟩
  | _ :: _ :: _ => simp [encoded] at spelled

theorem encodePoint_toNat (letter : Char) :
    encodePoint letter.toNat = String.utf8EncodeChar letter := by
  rw [encodePoint, Char.ofNat_toNat, ofText_eq_flatMap, String.toList_singleton]
  exact List.append_nil _

/-- An escape by number, as control characters are written. -/
theorem readEscape_control
    {letter : Char}
    (control : letter.toNat < 32)
    (rest : Bytes) :
    readEscape (ofLetters ['u', '0', '0', hexLetter (letter.toNat / 16),
      hexLetter (letter.toNat % 16)] ++ rest) = .ok (String.utf8EncodeChar letter, rest) := by
  obtain ⟨high, highBytes, highValue⟩ := exists_hexByte (show letter.toNat / 16 < 16 by omega)
  obtain ⟨low, lowBytes, lowValue⟩ := exists_hexByte (show letter.toNat % 16 < 16 by omega)
  have bytes : ofLetters ['u', '0', '0', hexLetter (letter.toNat / 16),
      hexLetter (letter.toNat % 16)] = [0x75, 0x30, 0x30, high, low] := by
    have front : ofLetters ['u', '0', '0'] = [0x75, 0x30, 0x30] := by decide
    rw [show ['u', '0', '0', hexLetter (letter.toNat / 16), hexLetter (letter.toNat % 16)] =
      ['u', '0', '0'] ++ [hexLetter (letter.toNat / 16), hexLetter (letter.toNat % 16)] from rfl,
      ofLetters_append, front, ofLetters_cons, ofLetters_cons, highBytes, lowBytes]
    rfl
  have zero : hexByte? 0x30 = some 0 := by decide
  have point : ((0 * 16 + 0) * 16 + letter.toNat / 16) * 16 + letter.toNat % 16 =
      letter.toNat := by
    omega
  have notLetter : letterEscape? 0x75 = none := by decide
  rw [bytes]
  simp only [List.cons_append, List.nil_append, readEscape, notLetter, if_true, readPointEscape,
    readFourHex, zero, highValue, lowValue, point]
  rw [if_neg (by omega), if_neg (by omega), encodePoint_toNat]

/-! ## Characters and texts -/

/-- A character is written as an escape by letter. -/
def IsWrittenAs (letter kind : Char) : Prop :=
  ∃ kindByte byte, String.utf8EncodeChar kind = [kindByte] ∧
    letterEscape? kindByte = some byte ∧ String.utf8EncodeChar letter = [byte]

theorem readTextBytes_letterEscape
    {letter kind : Char}
    (written : IsWrittenAs letter kind)
    (done rest : Bytes) :
    readTextBytes done (ofLetters ['\\', kind] ++ rest) =
      readTextBytes ((String.utf8EncodeChar letter).reverse ++ done) rest := by
  obtain ⟨kindByte, byte, kindBytes, stands, bytes⟩ := written
  have backslash : String.utf8EncodeChar '\\' = [0x5c] := by decide
  rw [ofLetters_cons, ofLetters_cons, backslash, kindBytes, bytes]
  exact readTextBytes_escape (readEscape_letter stands rest) done

/-- A character is read from its spelling. -/
theorem readTextBytes_escapedLetter (letter : Char) (done rest : Bytes) :
    readTextBytes done (ofLetters (escapedLetter letter) ++ rest) =
      readTextBytes ((String.utf8EncodeChar letter).reverse ++ done) rest := by
  have character {point : Nat} (same : letter.toNat = point) : letter = Char.ofNat point := by
    rw [← same, Char.ofNat_toNat]
  unfold escapedLetter
  split_ifs with quote backslash backspace feed newline carriage tab control
  · rw [quote]
    exact readTextBytes_letterEscape ⟨0x22, 0x22, by decide, by decide, by decide⟩ done rest
  · rw [backslash]
    exact readTextBytes_letterEscape ⟨0x5c, 0x5c, by decide, by decide, by decide⟩ done rest
  · rw [character backspace]
    exact readTextBytes_letterEscape ⟨0x62, 0x08, by decide, by decide, by decide⟩ done rest
  · rw [character feed]
    exact readTextBytes_letterEscape ⟨0x66, 0x0c, by decide, by decide, by decide⟩ done rest
  · rw [newline]
    exact readTextBytes_letterEscape ⟨0x6e, 0x0a, by decide, by decide, by decide⟩ done rest
  · rw [carriage]
    exact readTextBytes_letterEscape ⟨0x72, 0x0d, by decide, by decide, by decide⟩ done rest
  · rw [tab]
    exact readTextBytes_letterEscape ⟨0x74, 0x09, by decide, by decide, by decide⟩ done rest
  · have backslash : String.utf8EncodeChar '\\' = [0x5c] := by decide
    rw [ofLetters_cons, backslash, List.append_assoc, List.singleton_append]
    exact readTextBytes_escape (readEscape_control control rest) done
  · rw [ofLetters_cons, ofLetters_nil, List.append_nil]
    exact readTextBytes_plains
      (isPlain_of_mem_utf8EncodeChar quote backslash (Nat.not_lt.mp control)) done rest

theorem readTextBytes_letters (letters : List Char) (done rest : Bytes) :
    readTextBytes done (ofLetters (letters.flatMap escapedLetter) ++ 0x22 :: rest) =
      .ok (done.reverse ++ ofLetters letters, rest) := by
  induction letters generalizing done with
  | nil =>
      rw [List.flatMap_nil, ofLetters_nil, List.nil_append, readTextBytes, if_pos rfl,
        List.append_nil]
  | cons letter others inductionHypothesis =>
      rw [List.flatMap_cons, ofLetters_append, List.append_assoc, readTextBytes_escapedLetter,
        inductionHypothesis, List.reverse_append, List.reverse_reverse, ofLetters_cons,
        List.append_assoc]

/-- A text is read from its spelling, of which the opening quote has been read. -/
theorem readText_letters (text : String) (rest : Bytes) :
    readText (ofLetters (text.toList.flatMap escapedLetter) ++ 0x22 :: rest) =
      .ok (text, rest) := by
  have bytes : ofLetters text.toList = ofText text := (ofText_eq_flatMap text).symm
  simp [readText, readTextBytes_letters, bytes]

/-- The bytes of a written text. -/
theorem ofText_textText (text : String) :
    ofText (textText text) =
      0x22 :: (ofLetters (text.toList.flatMap escapedLetter) ++ [0x22]) := by
  have quote : String.utf8EncodeChar '"' = [0x22] := by decide
  rw [textText, ofText_eq_ofLetters, List.cons_append, ofLetters_cons, ofLetters_append,
    ofLetters_cons, ofLetters_nil, quote]
  rfl

end Json
end Telemetry
