/-!
# Ranges of code points

Character classes are lists of ranges of code points, both ends included.
-/

namespace Telemetry
namespace Text

/-- A range of code points, both ends included. -/
abbrev CodeRange := Nat × Nat

/-- Whether a character lies in one of the ranges. -/
def inRanges (ranges : List CodeRange) (letter : Char) : Bool :=
  ranges.any fun range => range.1 ≤ letter.toNat && letter.toNat ≤ range.2

theorem inRanges_eq_true_iff {ranges : List CodeRange} {letter : Char} :
    inRanges ranges letter = true ↔
      ∃ range ∈ ranges, range.1 ≤ letter.toNat ∧ letter.toNat ≤ range.2 := by
  simp [inRanges]

end Text
end Telemetry
