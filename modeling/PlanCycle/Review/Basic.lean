/-
Module: PlanCycle.Review.Basic
Purpose: Verdicts, issues and reviews.
Main exports:
  Verdict, Severity, Issue, Review
-/

namespace PlanCycle

/-- What a review says about a plan. -/
inductive Verdict where
  | approved
  | needsRevision
  | rejected
  | unknown
deriving Repr, Inhabited, DecidableEq

/-- The word under which a verdict is stored and shown. -/
def Verdict.word : Verdict → String
  | .approved => "approved"
  | .needsRevision => "needs_revision"
  | .rejected => "rejected"
  | .unknown => "unknown"

/-- How much an issue matters. -/
inductive Severity where
  | high
  | medium
  | low
deriving Repr, Inhabited, DecidableEq

/-- The word under which a severity is stored. -/
def Severity.word : Severity → String
  | .high => "high"
  | .medium => "medium"
  | .low => "low"

/-- The word under which a severity is shown in a review. -/
def Severity.title : Severity → String
  | .high => "High"
  | .medium => "Medium"
  | .low => "Low"

/-- One objection of a reviewer, with the place that it is about if one is named. -/
structure Issue where
  severity : Severity
  description : String
  location : Option String := none
deriving Repr, Inhabited, DecidableEq

/-- A review as it was read from an agent's answer. -/
structure Review where
  verdict : Verdict
  issues : List Issue := []
  rawText : String := ""
deriving Repr, Inhabited, DecidableEq

/-- Whether the review wants the plan changed. -/
def Review.requestsChanges (review : Review) : Bool :=
  review.verdict = .needsRevision ∨ review.verdict = .rejected

/-- A review that wants changes has to name at least one issue. -/
def Review.isConsistent (review : Review) : Bool :=
  !(review.requestsChanges && review.issues.isEmpty)

end PlanCycle
