/-
Module: PlanCycle.Text.CodeRange
Purpose: Sets of code points given by their ranges.
Main exports:
  inRanges
-/

namespace PlanCycle.Text

/-- Whether one of the ranges, both ends included, holds the code point. -/
def inRanges (ranges : List (Nat × Nat)) (n : Nat) : Bool :=
  ranges.any fun range => range.1 ≤ n && n ≤ range.2

end PlanCycle.Text
