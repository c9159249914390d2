/-
Module: PlanCycle.Change.Phase
Purpose: The phases of a change and the moves between them.
Main exports:
  Phase, Phase.next, Phase.ofVerdict?
-/
import PlanCycle.Review.Basic

namespace PlanCycle

/-!
A change is proposed until its plan is approved or rejected.  An approved plan is
challenged, then implemented, complete and archived; a rejected one can be proposed again.
-/

/-- How far a change is. -/
inductive Phase where
  | proposed
  | challenged
  | rejected
  | implementing
  | complete
  | archived
deriving Repr, Inhabited, DecidableEq

namespace Phase

/-- The word for a phase. -/
def word : Phase → String
  | .proposed => "proposed"
  | .challenged => "challenged"
  | .rejected => "rejected"
  | .implementing => "implementing"
  | .complete => "complete"
  | .archived => "archived"

/-- The phases that a change may move to. -/
def next : Phase → List Phase
  | .proposed => [.proposed, .challenged, .rejected]
  | .challenged => [.implementing]
  | .implementing => [.implementing, .complete]
  | .complete => [.archived]
  | .rejected => [.proposed]
  | .archived => []

/-- The phase that a verdict on the plan leads to. -/
def ofVerdict? : Verdict → Option Phase
  | .approved => some .challenged
  | .needsRevision => some .proposed
  | .rejected => some .rejected
  | .unknown => none

end Phase

end PlanCycle
