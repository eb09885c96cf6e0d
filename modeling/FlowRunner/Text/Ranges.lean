/-!
# Sets of characters as ranges

A property of characters is stored as a list of ranges of code points, ends included.
-/

namespace FlowRunner.Text

/-- Whether a character lies in one of the ranges. -/
def inRanges (ranges : List (Nat × Nat)) (c : Char) : Bool :=
  ranges.any fun (first, last) => decide (first ≤ c.toNat) && decide (c.toNat ≤ last)

end FlowRunner.Text
