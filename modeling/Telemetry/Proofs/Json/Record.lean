import Mathlib.Data.List.Forall2
import Telemetry.Json.Record
import Telemetry.Json.Writer
import Telemetry.Proofs.Json.NumberText
import Telemetry.Proofs.Json.Text

/-!
# Written arrays and objects can be read

A reader leaves what ends a value, and the signs between the values of an array
or an object end any value.  So an array is read element by element, and an
object member by member as long as each member goes to a field that has not
been given.
-/

namespace Telemetry
namespace Json

open Bytes

/-! ## Values -/

/-- A reader takes a text for a value, whatever follows, as long as it ends a number. -/
def ReadsAs (read : Reader α) (text : Bytes) (value : α) : Prop :=
  ∀ rest, EndsNumber rest -> read (text ++ rest) = .ok (value, rest)

theorem endsNumber_nil : EndsNumber [] := nofun

theorem endsNumber_sign
    {byte : UInt8}
    (sign : byte = 0x2c ∨ byte = 0x5d ∨ byte = 0x7d)
    (rest : Bytes) :
    EndsNumber (byte :: rest) := by
  intro first same
  rw [← Option.some.inj same]
  rcases sign with rfl | rfl | rfl <;> decide

/-- A whole text is decoded as the value that it is read as. -/
theorem ReadsAs.decode
    {read : Reader α} {text : Bytes} {value : α}
    (reads : ReadsAs read text value) :
    decode read text = .ok value := by
  have whole := reads [] endsNumber_nil
  rw [List.append_nil] at whole
  rw [Json.decode, whole]
  rfl

theorem readsAs_string (text : String) : ReadsAs string (ofText (textText text)) text := by
  intro rest _
  rw [ofText_textText, List.cons_append, List.append_assoc]
  exact readText_letters text rest

theorem readsAs_int64 (value : Int64) : ReadsAs int64 (ofText (toString value.toInt)) value :=
  fun _ ends => int64_toString value ends

theorem skipSpace_cons
    {byte : UInt8}
    (solid : isSpace byte = false)
    (rest : Bytes) :
    skipSpace (byte :: rest) = byte :: rest := by
  rw [skipSpace, solid]
  rfl

theorem skipSpace_skipSpace (input : Bytes) : skipSpace (skipSpace input) = skipSpace input := by
  induction input with
  | nil => rfl
  | cons byte rest inductionHypothesis =>
      cases solid : isSpace byte with
      | true => rw [skipSpace, solid, if_pos rfl, inductionHypothesis]
      | false => rw [skipSpace_cons solid, skipSpace_cons solid]

/-- A reader that begins behind blanks and takes neither `null` nor nothing at all. -/
structure RefusesNull (read : Reader α) : Prop where
  /-- Blanks do not count. -/
  skips : ∀ input, read (skipSpace input) = read input
  /-- Nothing that begins like `null` is taken. -/
  null : ∀ rest result, read (0x6e :: rest) ≠ .ok result
  /-- The end of the text is not taken. -/
  nothing : ∀ result, read [] ≠ .ok result

theorem refusesNull_number (expected : String) : RefusesNull (number expected) where
  skips := fun input => by rw [number, skipSpace_skipSpace, number]
  null := by
    intro rest result read
    have wrong : number expected (0x6e :: rest) = refuseType Number expected 0x6e rest := rfl
    rw [wrong, refuseType, if_pos rfl] at read
    dsimp only at read
    split at read <;> cases read
  nothing := nofun

theorem refusesNull_real : RefusesNull real where
  skips := fun input => by rw [real, (refusesNull_number _).skips, real]
  null := by
    intro rest result read
    unfold real at read
    split at read
    next => cases read
    next value after wrong => exact (refusesNull_number _).null rest _ wrong
  nothing := nofun

theorem refusesNull_int64 : RefusesNull int64 where
  skips := fun input => by rw [int64, (refusesNull_number _).skips, int64]
  null := by
    intro rest result read
    unfold int64 at read
    split at read
    next => cases read
    next value after wrong => exact (refusesNull_number _).null rest _ wrong
    next value after wrong => exact (refusesNull_number _).null rest _ wrong
    next => cases read
  nothing := nofun

/-- What is not `null` is read where `null` may stand too. -/
theorem ReadsAs.optional
    {read : Reader α} {text : Bytes} {value : α}
    (reads : ReadsAs read text value)
    (refuses : RefusesNull read) :
    ReadsAs (optional read) text (some value) := by
  intro rest ends
  have taken := reads rest ends
  rw [← refuses.skips] at taken
  unfold Json.optional
  cases start : skipSpace (text ++ rest) with
  | nil =>
      rw [start] at taken
      exact absurd taken (refuses.nothing _)
  | cons byte after =>
      rw [start] at taken
      have other : byte ≠ 0x6e := by
        rintro rfl
        exact refuses.null _ _ taken
      dsimp only
      rw [if_neg other, taken]
      rfl

theorem readsAs_null (read : Reader α) : ReadsAs (optional read) (ofText "null") none := by
  have word : ofText "null" = [0x6e, 0x75, 0x6c, 0x6c] := by decide
  intro rest _
  rw [word]
  rfl

/-! ## Pieces between commas -/

/-- Pieces with a comma before each of them, save the first. -/
def separated (first : Bool) : List Bytes -> Bytes
  | [] => []
  | piece :: rest => (if first then [] else [0x2c]) ++ (piece ++ separated false rest)

theorem ofText_intercalate (texts : List String) :
    ofText (String.intercalate "," texts) = separated true (texts.map ofText) := by
  have comma : ofText "," = [0x2c] := by decide
  induction texts with
  | nil => rw [String.intercalate_nil]; rfl
  | cons text rest inductionHypothesis =>
      cases rest with
      | nil =>
          rw [String.intercalate_singleton]
          exact (List.append_nil _).symm
      | cons next others =>
          rw [String.intercalate_cons_cons, ofText_append, ofText_append, inductionHypothesis,
            comma, List.append_assoc]
          rfl

/-- What stands behind a piece ends it. -/
theorem endsNumber_separated
    {close : UInt8}
    (closes : close = 0x5d ∨ close = 0x7d)
    (pieces : List Bytes)
    (rest : Bytes) :
    EndsNumber (separated false pieces ++ close :: rest) := by
  cases pieces with
  | nil => exact endsNumber_sign (Or.inr closes) rest
  | cons piece others => exact endsNumber_sign (Or.inl rfl) _

theorem length_le_length_separated
    {pieces : List Bytes}
    (nonempty : ∀ piece ∈ pieces, piece ≠ [])
    (first : Bool) :
    pieces.length ≤ (separated first pieces).length := by
  induction pieces generalizing first with
  | nil => exact Nat.zero_le _
  | cons piece rest inductionHypothesis =>
      have later := inductionHypothesis
        (fun other present => nonempty other (List.mem_cons_of_mem _ present)) false
      have some_bytes := List.length_pos_iff.mpr (nonempty piece List.mem_cons_self)
      simp only [separated, List.length_append, List.length_cons]
      omega

/-! ## Arrays -/

/-- A text begins like an element of an array: with no blank and not with its end. -/
def BeginsElement (text : Bytes) : Prop :=
  ∃ byte after, text = byte :: after ∧ isSpace byte = false ∧ byte ≠ 0x5d

theorem BeginsElement.ne_nil {text : Bytes} (begins : BeginsElement text) : text ≠ [] := by
  obtain ⟨byte, after, rfl, -⟩ := begins
  exact List.cons_ne_nil _ _

theorem nextElement_separated
    {piece : Bytes}
    (begins : BeginsElement piece)
    (first : Bool)
    (rest : Bytes) :
    nextElement first ((if first then [] else [0x2c]) ++ (piece ++ rest)) =
      .ok (true, piece ++ rest) := by
  obtain ⟨byte, after, rfl, solid, other⟩ := begins
  cases first with
  | true =>
      change nextElement true (byte :: (after ++ rest)) = _
      simp [nextElement, skipSpace_cons solid, other]
  | false =>
      have comma : skipSpace (0x2c :: byte :: (after ++ rest)) =
          0x2c :: byte :: (after ++ rest) := rfl
      change nextElement false (0x2c :: byte :: (after ++ rest)) = _
      simp [nextElement, comma, skipSpace_cons solid, other]

/-- Elements that can be read one by one are read in a row. -/
theorem readElements_separated
    {read : Reader α} {pieces : List Bytes} {values : List α} {fuel : Bytes}
    (begins : ∀ piece ∈ pieces, BeginsElement piece)
    (elements : List.Forall₂ (ReadsAs read) pieces values)
    (enough : pieces.length < fuel.length)
    (first : Bool)
    (done : List α)
    (rest : Bytes) :
    readElements read fuel first done (separated first pieces ++ 0x5d :: rest) =
      .ok (done.reverse ++ values, rest) := by
  induction elements generalizing fuel first done with
  | nil =>
      obtain ⟨unit, spare, rfl⟩ := List.exists_cons_of_length_pos (Nat.zero_lt_of_lt enough)
      rw [List.append_nil]
      rfl
  | @cons piece value pieces values element _ inductionHypothesis =>
      obtain ⟨unit, spare, rfl⟩ := List.exists_cons_of_length_pos (Nat.zero_lt_of_lt enough)
      have ends := endsNumber_separated (Or.inl rfl) pieces rest
      simp only [separated, List.append_assoc]
      rw [readElements, nextElement_separated (begins piece List.mem_cons_self)]
      dsimp only
      rw [element _ ends]
      dsimp only
      rw [inductionHypothesis (fun other present => begins other (List.mem_cons_of_mem _ present))
        (by simpa using enough), List.reverse_cons, List.append_assoc, List.singleton_append]

/-- An array of written elements is read as the list of what they are read as. -/
theorem readsAs_list
    {read : Reader α} {texts : List String} {values : List α}
    (begins : ∀ text ∈ texts, BeginsElement (ofText text))
    (elements : List.Forall₂ (fun text => ReadsAs read (ofText text)) texts values) :
    ReadsAs (list read) (ofText (listText texts)) values := by
  have opening : ofText "[" = [0x5b] := by decide
  have closing : ofText "]" = [0x5d] := by decide
  intro rest _
  have begins : ∀ piece ∈ texts.map ofText, BeginsElement piece := List.forall_mem_map.mpr begins
  have pieces := length_le_length_separated
    (fun piece present => (begins piece present).ne_nil) true
  rw [listText, ofText_append, ofText_append, ofText_intercalate, opening, closing,
    List.append_assoc, List.append_assoc]
  change readElements read (0x5b :: (separated true (texts.map ofText) ++ 0x5d :: rest)) true []
    (separated true (texts.map ofText) ++ 0x5d :: rest) = _
  refine readElements_separated begins (List.forall₂_map_left_iff.mpr elements) ?_ true [] rest
  simp only [List.length_cons, List.length_append]
  omega

/-! ## Objects -/

/-- The bytes of a member of an object. -/
def memberBytes (member : String × String) : Bytes :=
  ofText (textText member.1 ++ ":" ++ member.2)

theorem memberBytes_eq (name text : String) :
    memberBytes (name, text) =
      0x22 :: (ofLetters (name.toList.flatMap escapedLetter) ++ 0x22 :: 0x3a :: ofText text) := by
  have colon : ofText ":" = [0x3a] := by decide
  rw [memberBytes, ofText_append, ofText_append, ofText_textText, colon, List.append_assoc,
    List.cons_append, List.append_assoc]
  rfl

/-- A draft after members of an object, each of which a field takes that was not given yet. -/
inductive Collects (fields : List (Field draft)) :
    draft -> List (String × String) -> draft -> Prop
  | nil {current : draft} : Collects fields current [] current
  | cons {current next last : draft} {name text : String} {members : List (String × String)}
      {field : Field draft}
      (known : (fields.find? fun field => field.name == name) = some field)
      (isNew : field.isGiven current = false)
      (reads : ReadsAs (field.read current) (ofText text) next)
      (others : Collects fields next members last) :
      Collects fields current ((name, text) :: members) last

/-- Members that are collected one after the other are collected together. -/
theorem Collects.append
    {fields : List (Field draft)} {current next last : draft}
    {front back : List (String × String)}
    (collects : Collects fields current front next)
    (later : Collects fields next back last) :
    Collects fields current (front ++ back) last := by
  induction collects with
  | nil => exact later
  | cons known isNew reads _ inductionHypothesis =>
      exact .cons known isNew reads (inductionHypothesis later)

theorem Field.readsAs_of
    {read : Reader α} {text : Bytes} {value : α}
    (reads : ReadsAs read text value)
    (name : String)
    (mayBeAbsent : Bool)
    (get : draft -> Option α)
    (set : draft -> α -> draft)
    (current : draft) :
    ReadsAs ((Field.of name mayBeAbsent read get set).read current) text (set current value) := by
  intro rest ends
  simp only [Field.of, reads rest ends]

/-- Members that their fields take one by one are read in a row. -/
theorem readMembers_of_collects
    {fields : List (Field draft)} {current last : draft} {members : List (String × String)}
    {fuel : Bytes}
    (collects : Collects fields current members last)
    (enough : members.length < fuel.length)
    (first : Bool)
    (rest : Bytes) :
    readMembers fields fuel first current
      (separated first (members.map memberBytes) ++ 0x7d :: rest) = .ok (last, rest) := by
  induction collects generalizing fuel first with
  | nil =>
      obtain ⟨unit, spare, rfl⟩ := List.exists_cons_of_length_pos (Nat.zero_lt_of_lt enough)
      rfl
  | @cons current next last name text members field known isNew reads _ inductionHypothesis =>
      obtain ⟨unit, spare, rfl⟩ := List.exists_cons_of_length_pos (Nat.zero_lt_of_lt enough)
      let after := separated false (members.map memberBytes) ++ 0x7d :: rest
      have ends : EndsNumber after := endsNumber_separated (Or.inr rfl) _ rest
      have key (letters : Bytes) :
          nextKey first ((if first then [] else [0x2c]) ++ 0x22 :: letters) =
            .ok (true, letters) := by
        cases first <;> rfl
      have member : readMember fields current name (0x3a :: (ofText text ++ after)) =
          .ok (next, after) := by
        rw [readMember, known]
        dsimp only
        rw [isNew]
        exact reads after ends
      simp only [List.map_cons, separated, memberBytes_eq, List.append_assoc, List.cons_append]
      rw [readMembers, key]
      dsimp only
      rw [readText_letters]
      dsimp only
      rw [member]
      exact inductionHypothesis (by simpa using enough) false

/-- An object of written members is read as the record that they make. -/
theorem Shape.readsAs_object
    {shape : Shape draft record} {members : List (String × String)} {last : draft}
    {value : record}
    (collects : Collects shape.fields shape.blank members last)
    (complete : shape.complete last = .ok value) :
    ReadsAs shape.read (ofText (objectText members)) value := by
  have opening : ofText "\x7b" = [0x7b] := by decide
  have closing : ofText "\x7d" = [0x7d] := by decide
  intro rest _
  let body := separated true (members.map memberBytes) ++ 0x7d :: rest
  have nonempty : ∀ piece ∈ members.map memberBytes, piece ≠ [] := by
    intro piece present
    obtain ⟨⟨name, text⟩, -, rfl⟩ := List.mem_map.mp present
    rw [memberBytes_eq]
    exact List.cons_ne_nil _ _
  have pieces := length_le_length_separated nonempty true
  have read : readMembers shape.fields (0x7b :: body) true shape.blank body = .ok (last, rest) := by
    refine readMembers_of_collects collects ?_ true rest
    rw [List.length_map] at pieces
    simp only [body, List.length_cons, List.length_append]
    omega
  have bytes : ofText (objectText members) ++ rest = 0x7b :: body := by
    rw [objectText, ofText_append, ofText_append, ofText_intercalate, opening, closing,
      List.append_assoc, List.append_assoc, List.map_map]
    rfl
  have brace : skipSpace (0x7b :: body) = 0x7b :: body := rfl
  rw [bytes, Shape.read, brace]
  dsimp only
  rw [if_pos rfl, read]
  dsimp only
  rw [complete]
  rfl

end Json
end Telemetry
