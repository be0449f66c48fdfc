/-!
# Ranges of code points

Classes of characters are given as lists of closed ranges of code points.
-/

namespace AdjointSynthesis.Text

/-- Whether a code point lies in one of some closed ranges. -/
def inRanges (ranges : List (Nat × Nat)) (code : Nat) : Bool :=
  ranges.any fun range => Nat.ble range.1 code && Nat.ble code range.2

theorem inRanges_eq_true_iff {ranges : List (Nat × Nat)} {code : Nat} :
    inRanges ranges code = true ↔ ∃ range ∈ ranges, range.1 ≤ code ∧ code ≤ range.2 := by
  simp [inRanges]

end AdjointSynthesis.Text
