/-!
# Cutting texts at a separator
-/

namespace Telemetry
namespace Text

/-- The pieces of a text between the separators; there is one more than separators. -/
def pieces (separator : Char) : List Char -> List (List Char)
  | [] => [[]]
  | letter :: rest =>
      if letter = separator then [] :: pieces separator rest
      else
        match pieces separator rest with
        | [] => [[letter]]
        | first :: others => (letter :: first) :: others

@[simp] theorem pieces_ne_nil (separator : Char) (text : List Char) :
    pieces separator text ≠ [] := by
  cases text with
  | nil => simp [pieces]
  | cons letter rest =>
    simp only [pieces]
    split
    · simp
    · split <;> simp

theorem intercalate_pieces (separator : Char) (text : List Char) :
    List.intercalate [separator] (pieces separator text) = text := by
  induction text with
  | nil => rfl
  | cons letter rest ih =>
    rw [pieces]
    split
    case isTrue same =>
      subst same
      cases cut : pieces letter rest with
      | nil => exact absurd cut (pieces_ne_nil _ _)
      | cons first others =>
        rw [cut] at ih
        simpa [List.intercalate, List.intersperse] using ih
    case isFalse other =>
      cases cut : pieces separator rest with
      | nil => exact absurd cut (pieces_ne_nil _ _)
      | cons first others =>
        rw [cut] at ih
        cases others <;> simpa [List.intercalate, List.intersperse] using ih

/-- The letters of a piece are letters of the text. -/
theorem mem_of_mem_pieces
    {separator letter : Char} {text piece : List Char}
    (present : piece ∈ pieces separator text)
    (inside : letter ∈ piece) :
    letter ∈ text := by
  induction text generalizing piece with
  | nil =>
    rw [pieces, List.mem_singleton] at present
    exact present ▸ inside
  | cons head rest ih =>
    rw [pieces] at present
    split at present
    case isTrue same =>
      rcases List.mem_cons.mp present with rfl | later
      · cases inside
      · exact List.mem_cons_of_mem _ (ih later inside)
    case isFalse other =>
      cases cut : pieces separator rest with
      | nil => exact absurd cut (pieces_ne_nil _ _)
      | cons first others =>
        rw [cut] at present ih
        rcases List.mem_cons.mp present with rfl | later
        · rcases List.mem_cons.mp inside with rfl | further
          · exact List.mem_cons_self
          · exact List.mem_cons_of_mem _ (ih List.mem_cons_self further)
        · exact List.mem_cons_of_mem _ (ih (List.mem_cons_of_mem _ later) inside)

/-- The pieces of a text, as texts. -/
def split (separator : Char) (text : String) : List String :=
  (pieces separator text.toList).map String.ofList

end Text
end Telemetry
