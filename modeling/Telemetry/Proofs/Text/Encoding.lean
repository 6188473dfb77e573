import Telemetry.Bytes
import Mathlib.Order.Defs.LinearOrder

/-!
# The bytes of a text

A text is spelled character by character: an English letter by itself, and any
other character by a leading byte and bytes that continue it, none of which
could be taken for an English letter.  Texts are in the order of their bytes.
-/

namespace Telemetry
namespace Bytes

theorem ofText_eq_flatMap (text : String) :
    ofText text = text.toList.flatMap String.utf8EncodeChar := by
  rw [ofText, String.toUTF8, ← String.utf8Encode_toList, List.utf8Encode, List.data_toByteArray]

@[simp] theorem ofText_ofList (letters : List Char) :
    ofText (String.ofList letters) = letters.flatMap String.utf8EncodeChar := by
  rw [ofText_eq_flatMap, String.toList_ofList]

/-- The bytes of some letters. -/
def ofLetters (letters : List Char) : Bytes :=
  letters.flatMap String.utf8EncodeChar

theorem ofText_eq_ofLetters (letters : List Char) :
    ofText (String.ofList letters) = ofLetters letters :=
  ofText_ofList letters

@[simp] theorem ofLetters_nil : ofLetters [] = [] := rfl

@[simp] theorem ofLetters_append (front back : List Char) :
    ofLetters (front ++ back) = ofLetters front ++ ofLetters back :=
  List.flatMap_append

theorem ofLetters_cons (letter : Char) (rest : List Char) :
    ofLetters (letter :: rest) = String.utf8EncodeChar letter ++ ofLetters rest :=
  List.flatMap_cons

theorem ofText_append (front back : String) :
    ofText (front ++ back) = ofText front ++ ofText back := by
  simp only [ofText_eq_flatMap, String.toList_append, List.flatMap_append]

@[simp] theorem text?_ofText (text : String) : text? (ofText text) = some text := by
  have same : (ofText text).toByteArray = text.toByteArray := by
    apply ByteArray.ext
    rw [List.data_toByteArray, ofText, String.toUTF8]
  unfold text? String.fromUTF8?
  rw [same, dif_pos text.isValidUTF8]
  rfl

/-- A byte string is read as a text when it is the encoding of the text. -/
theorem text?_eq_some_iff {bytes : Bytes} {text : String} :
    text? bytes = some text ↔ bytes = ofText text := by
  constructor
  · intro read
    unfold text? String.fromUTF8? at read
    split at read
    · cases read
      simp [ofText, String.fromUTF8]
    · cases read
  · rintro rfl
    exact text?_ofText text

/-! ## The bytes of a character -/

/-- The byte that continues a character with the last digit of a number in base sixty-four. -/
def continuation (value : Nat) : UInt8 :=
  UInt8.ofNat (value % 64 + 0x80)

/-- A character is a leading byte with its first digits in base sixty-four, and a byte for each
digit that is left. -/
theorem utf8EncodeChar_cases (letter : Char) :
    (letter.toNat < 0x80 ∧ String.utf8EncodeChar letter = [UInt8.ofNat letter.toNat]) ∨
      (0x80 ≤ letter.toNat ∧ letter.toNat < 0x800 ∧
        String.utf8EncodeChar letter =
          [UInt8.ofNat (letter.toNat / 64 + 0xc0), continuation letter.toNat]) ∨
      (0x800 ≤ letter.toNat ∧ letter.toNat < 0x10000 ∧
        String.utf8EncodeChar letter =
          [UInt8.ofNat (letter.toNat / 64 / 64 + 0xe0), continuation (letter.toNat / 64),
            continuation letter.toNat]) ∨
      (0x10000 ≤ letter.toNat ∧ letter.toNat < 0x110000 ∧
        String.utf8EncodeChar letter =
          [UInt8.ofNat (letter.toNat / 64 / 64 / 64 + 0xf0),
            continuation (letter.toNat / 64 / 64), continuation (letter.toNat / 64),
            continuation letter.toNat]) := by
  have bounded : letter.toNat < 0x110000 := by
    have valid := letter.valid
    simp only [UInt32.isValidChar, Nat.isValidChar] at valid
    simp only [Char.toNat]
    omega
  unfold String.utf8EncodeChar continuation
  simp only [Char.toNat_val]
  generalize letter.toNat = point at *
  simp only [Nat.div_div_eq_div_mul, Nat.reduceMul]
  split
  next one => exact Or.inl ⟨by omega, rfl⟩
  next =>
    split
    next two =>
      rw [Nat.mod_eq_of_lt (by omega : point / 64 < 32)]
      exact Or.inr (Or.inl ⟨by omega, by omega, rfl⟩)
    next =>
      split
      next three =>
        rw [Nat.mod_eq_of_lt (by omega : point / 4096 < 16)]
        exact Or.inr (Or.inr (Or.inl ⟨by omega, by omega, rfl⟩))
      next =>
        rw [Nat.mod_eq_of_lt (by omega : point / 262144 < 8)]
        exact Or.inr (Or.inr (Or.inr ⟨by omega, by omega, rfl⟩))

/-- A byte below `0x80` occurs in the character of that number only. -/
theorem toNat_of_mem_utf8EncodeChar
    {letter : Char} {byte : UInt8}
    (present : byte ∈ String.utf8EncodeChar letter)
    (small : byte.toNat < 0x80) :
    letter.toNat = byte.toNat := by
  have large {value : Nat} (high : 0x80 ≤ value) (fits : value < 0x100) :
      byte ≠ UInt8.ofNat value := by
    rintro rfl
    rw [UInt8.toNat_ofNat', Nat.mod_eq_of_lt fits] at small
    omega
  have continued (value : Nat) : byte ≠ continuation value := large (by omega) (by omega)
  rcases utf8EncodeChar_cases letter with
    ⟨_, one⟩ | ⟨_, _, two⟩ | ⟨_, _, three⟩ | ⟨_, _, four⟩
  · rw [one, List.mem_singleton] at present
    rw [present, UInt8.toNat_ofNat', Nat.mod_eq_of_lt (by omega)]
  · simp only [two, List.mem_cons, List.not_mem_nil, or_false, continued] at present
    exact absurd present (large (by omega) (by omega))
  · simp only [three, List.mem_cons, List.not_mem_nil, or_false, continued] at present
    exact absurd present (large (by omega) (by omega))
  · simp only [four, List.mem_cons, List.not_mem_nil, or_false, continued] at present
    exact absurd present (large (by omega) (by omega))

/-! ## The order of texts -/

/-- The smaller leading byte comes first, whatever follows. -/
theorem leading_lt
    {low high : Nat}
    (less : low < high)
    (fits : high < 0x100)
    (after beyond : Bytes) :
    UInt8.ofNat low :: after < UInt8.ofNat high :: beyond := by
  refine List.cons_lt_cons_iff.mpr (Or.inl ?_)
  rw [UInt8.lt_iff_toNat_lt, UInt8.toNat_ofNat', UInt8.toNat_ofNat']
  omega

/-- Bytes that are continued are in the order of the numbers that they spell. -/
theorem continued_lt
    {low high : Nat} {front later : Bytes}
    (less : low < high)
    (earlier : low / 64 < high / 64 -> ∀ after beyond, front ++ after < later ++ beyond)
    (same : low / 64 = high / 64 -> front = later)
    (after beyond : Bytes) :
    front ++ continuation low :: after < later ++ continuation high :: beyond := by
  rcases Nat.lt_or_ge (low / 64) (high / 64) with before | behind
  · exact earlier before _ _
  · rw [same (by omega)]
    refine List.append_left_lt (List.cons_lt_cons_iff.mpr (Or.inl ?_))
    unfold continuation
    rw [UInt8.lt_iff_toNat_lt, UInt8.toNat_ofNat', UInt8.toNat_ofNat']
    omega

/-- The bytes of the smaller character come first, whatever follows. -/
theorem utf8EncodeChar_lt
    {first second : Char}
    (less : first < second)
    (after beyond : Bytes) :
    String.utf8EncodeChar first ++ after < String.utf8EncodeChar second ++ beyond := by
  have lessPoint : first.toNat < second.toNat := less
  -- Characters of unequal lengths differ in their leading bytes.
  rcases utf8EncodeChar_cases first with ⟨_, one⟩ | ⟨_, _, one⟩ | ⟨_, _, one⟩ | ⟨_, _, one⟩
  · rw [one]
    rcases utf8EncodeChar_cases second with ⟨_, two⟩ | ⟨_, _, two⟩ | ⟨_, _, two⟩ | ⟨_, _, two⟩ <;>
      rw [two] <;> exact leading_lt (by omega) (by omega) _ _
  · rcases utf8EncodeChar_cases second with ⟨_, two⟩ | ⟨_, _, two⟩ | ⟨_, _, two⟩ | ⟨_, _, two⟩
    · omega
    · rw [one, two]
      exact @continued_lt _ _ [_] [_] lessPoint
        (fun before _ _ => leading_lt (by omega) (by omega) _ _) (fun same => by rw [same]) _ _
    all_goals
      rw [one, two]
      exact leading_lt (by omega) (by omega) _ _
  · rcases utf8EncodeChar_cases second with ⟨_, two⟩ | ⟨_, _, two⟩ | ⟨_, _, two⟩ | ⟨_, _, two⟩
    · omega
    · omega
    · rw [one, two]
      refine @continued_lt _ _ [_, _] [_, _] lessPoint
        (fun before => ?_) (fun same => by rw [same]) _ _
      exact @continued_lt _ _ [_] [_] before
        (fun before _ _ => leading_lt (by omega) (by omega) _ _) (fun same => by rw [same])
    · rw [one, two]
      exact leading_lt (by omega) (by omega) _ _
  · rcases utf8EncodeChar_cases second with ⟨_, two⟩ | ⟨_, _, two⟩ | ⟨_, _, two⟩ | ⟨_, _, two⟩
    · omega
    · omega
    · omega
    · rw [one, two]
      refine @continued_lt _ _ [_, _, _] [_, _, _] lessPoint
        (fun before => ?_) (fun same => by rw [same]) _ _
      refine @continued_lt _ _ [_, _] [_, _] before
        (fun before => ?_) (fun same => by rw [same])
      exact @continued_lt _ _ [_] [_] before
        (fun before _ _ => leading_lt (by omega) (by omega) _ _) (fun same => by rw [same])

theorem flatMap_utf8EncodeChar_lt
    {first second : List Char}
    (less : first < second) :
    first.flatMap String.utf8EncodeChar < second.flatMap String.utf8EncodeChar := by
  induction less with
  | nil =>
      rename_i letter rest
      rw [List.flatMap_nil, List.flatMap_cons]
      rcases spelled : String.utf8EncodeChar letter with _ | ⟨byte, others⟩
      · exact absurd spelled (String.utf8EncodeChar_ne_nil)
      · exact List.nil_lt_cons _ _
  | rel less =>
      rw [List.flatMap_cons, List.flatMap_cons]
      exact utf8EncodeChar_lt less _ _
  | cons _ inductionHypothesis =>
      rw [List.flatMap_cons, List.flatMap_cons]
      exact List.append_left_lt inductionHypothesis

/-- Texts are in the order of their bytes. -/
theorem ofText_lt_iff {first second : String} : ofText first < ofText second ↔ first < second := by
  have monotone {first second : String} (less : first < second) :
      ofText first < ofText second := by
    rw [ofText_eq_flatMap, ofText_eq_flatMap]
    exact flatMap_utf8EncodeChar_lt (String.lt_iff.mp less)
  constructor
  · intro less
    rcases Std.lt_trichotomy first second with before | rfl | behind
    · exact before
    · exact absurd less (List.lt_irrefl _)
    · exact absurd less (List.lt_asymm (monotone behind))
  · exact monotone

theorem ofText_le_iff {first second : String} : ofText first ≤ ofText second ↔ first ≤ second := by
  rw [← List.not_lt, ofText_lt_iff, String.not_lt]

end Bytes
end Telemetry
