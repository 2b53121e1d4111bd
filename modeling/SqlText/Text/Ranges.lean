/-!
# Sets of code points as ranges

A property of characters that no rule computes – being a letter, being printable – is stored as
the list of the closed ranges of code points that have it. `inRanges` is membership in such a
list.
-/

namespace SqlText.Text

/-- Membership of a code point in a list of closed ranges. -/
def inRanges (ranges : List (Nat × Nat)) (n : Nat) : Bool :=
  ranges.any fun r => decide (r.1 ≤ n) && decide (n ≤ r.2)

end SqlText.Text
