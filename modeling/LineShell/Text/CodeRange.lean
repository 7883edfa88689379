/-!
# Ranges of code points

Properties of characters are kept as lists of ranges, both ends included, in ascending order.
-/

namespace LineShell.Text

/-- Ranges of code points, each given by its first and its last. -/
abbrev CodeRanges := List (Nat × Nat)

def CodeRanges.holds (ranges : CodeRanges) (code : Nat) : Bool :=
  ranges.any fun range => range.1 ≤ code && code ≤ range.2

end LineShell.Text
