/-!
# Sets of code points

A property of characters is given by ranges of code points.
-/

namespace Stencil

/-- Whether a code point lies in one of the ranges, ends included. -/
def inRanges (ranges : List (Nat × Nat)) (n : Nat) : Bool :=
  ranges.any fun r => r.1 ≤ n && n ≤ r.2

end Stencil
