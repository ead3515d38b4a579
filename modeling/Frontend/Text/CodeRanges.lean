/-!
# Sets of code points

A property of characters is given by the ranges of code points that have it, in increasing order.
-/

namespace Frontend.Text

/-- Ranges of code points, both ends included, in increasing order. -/
abbrev CodeRanges := List (Nat × Nat)

/-- The code point lies in one of the ranges. -/
def CodeRanges.contains : CodeRanges → Nat → Bool
  | [], _                  => false
  | (low, high) :: rest, n => low ≤ n && (n ≤ high || CodeRanges.contains rest n)

end Frontend.Text
