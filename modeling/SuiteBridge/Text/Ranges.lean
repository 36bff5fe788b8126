/-!
# Ranges of code points

A class of characters is a list of inclusive ranges of code points in ascending order.
-/

namespace SuiteBridge.Text

/-- A code point is in one of the ranges. -/
def inRanges (ranges : List (Nat × Nat)) (code : Nat) : Bool :=
  ranges.any fun (low, high) => low ≤ code && code ≤ high

end SuiteBridge.Text
