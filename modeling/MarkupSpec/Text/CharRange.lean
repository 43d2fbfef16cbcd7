/-!
# Tables of characters

A property of characters that no short rule gives is a table of ranges of code
points, both ends included.  `inRanges` reads such a table.
-/

namespace MarkupSpec.Text

/-- Is the code point in one of the ranges? -/
def inRanges (ranges : List (Nat × Nat)) (code : Nat) : Bool :=
  ranges.any fun range => range.1 ≤ code && code ≤ range.2

/-- A code point is in a table exactly when some range of the table holds it. -/
theorem inRanges_iff {ranges : List (Nat × Nat)} {code : Nat} :
    inRanges ranges code = true ↔ ∃ range ∈ ranges, range.1 ≤ code ∧ code ≤ range.2 := by
  simp [inRanges]

end MarkupSpec.Text
