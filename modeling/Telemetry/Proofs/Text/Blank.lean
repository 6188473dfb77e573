import Telemetry.Text.Blank

/-!
# Texts without blanks

The visible characters of ASCII are no blanks, and a text without blanks stays
as it is when it is trimmed.
-/

namespace Telemetry
namespace Text

/-- A visible character of ASCII is not a blank. -/
theorem isBlank_of_visible
    {letter : Char}
    (low : 0x21 ≤ letter.toNat)
    (high : letter.toNat ≤ 0x7e) :
    isBlank letter = false := by
  rw [← Bool.not_eq_true, isBlank, inRanges_eq_true_iff]
  rintro ⟨range, inside, atLeast, atMost⟩
  have apart : ∀ range ∈ blankRanges, range.2 < 0x21 ∨ 0x7e < range.1 := by decide
  have outside := apart range inside
  omega

/-- A text without blanks stays as it is when it is trimmed. -/
theorem trimLetters_eq_self
    {letters : List Char}
    (solid : ∀ letter ∈ letters, isBlank letter = false) :
    trimLetters letters = letters := by
  have keeps : ∀ {kept : List Char}, (∀ letter ∈ kept, isBlank letter = false) ->
      kept.dropWhile isBlank = kept := by
    intro kept solid
    cases kept with
    | nil => rfl
    | cons first rest =>
        exact List.dropWhile_cons_of_neg (by simp [solid first List.mem_cons_self])
  have reversed : ∀ letter ∈ letters.reverse, isBlank letter = false :=
    fun letter present => solid letter (List.mem_reverse.mp present)
  rw [trimLetters, keeps solid, keeps reversed, List.reverse_reverse]

end Text
end Telemetry
