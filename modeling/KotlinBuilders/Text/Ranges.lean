/-!
# Sets of characters given by ranges

A property of characters that a standard lists is kept as a table of closed
ranges of code points, in ascending order.  `Ranges.holds` is membership in the
union of the ranges, and `Ranges.holds_iff` says so.
-/

namespace KotlinBuilders.Text

/-- Closed ranges of code points, in ascending order. -/
abbrev Ranges := List (Nat × Nat)

namespace Ranges

/-- Whether one of the ranges holds the character. -/
def holds (ranges : Ranges) (c : Char) : Bool :=
  ranges.any fun range => range.1 ≤ c.toNat && c.toNat ≤ range.2

/-- A table holds a character when one of its ranges does, ends included. -/
theorem holds_iff {ranges : Ranges} {c : Char} :
    ranges.holds c = true ↔ ∃ range ∈ ranges, range.1 ≤ c.toNat
      ∧ c.toNat ≤ range.2 := by
  simp [holds]

end Ranges

end KotlinBuilders.Text
