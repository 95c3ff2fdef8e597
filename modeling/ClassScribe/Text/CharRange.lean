/-! # Ranges of characters

A class of characters is a list of ranges of code points, each given by its first and its last
member. -/

namespace ClassScribe.Text

/-- The code points from the first to the second component, both included. -/
abbrev CharRange := Nat × Nat

/-- Whether one of the ranges holds the character. -/
def inRanges (ranges : List CharRange) (c : Char) : Bool :=
  ranges.any fun r => r.1 ≤ c.toNat && c.toNat ≤ r.2

theorem inRanges_iff {ranges : List CharRange} {c : Char} :
    inRanges ranges c = true ↔ ∃ r ∈ ranges, r.1 ≤ c.toNat ∧ c.toNat ≤ r.2 := by
  simp [inRanges]

end ClassScribe.Text
