/-!
Sets of code points as lists of ranges.
-/
namespace Excerpt

/-- Is `n` inside one of the ranges, both ends included? -/
def inRanges (ranges : List (Nat × Nat)) (n : Nat) : Bool :=
  ranges.any fun r => r.1 ≤ n && n ≤ r.2

end Excerpt
