/-
Module: PlanCycle.Text.Within
Purpose: Whether one text occurs in another.
Main exports:
  occursIn
-/

namespace PlanCycle.Text

/-- Whether a text occurs in another one. -/
def occursIn (part : List Char) : List Char → Bool
  | [] => part.isEmpty
  | c :: text => part.isPrefixOf (c :: text) || occursIn part text

end PlanCycle.Text
