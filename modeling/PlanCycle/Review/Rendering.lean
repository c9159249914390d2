/-
Module: PlanCycle.Review.Rendering
Purpose: Writing a review in the form in which it is kept and handed to agents.
Main exports:
  Review.render, Verdict.marker
-/
import PlanCycle.Review.Basic
import PlanCycle.Text.Line

namespace PlanCycle

open Text

/-- The marker for a verdict alone. -/
def Verdict.marker (verdict : Verdict) : String :=
  "<review status=\"" ++ verdict.word ++ "\"></review>"

/-- The word for a verdict as it stands in the body of a review. -/
def Verdict.capitals : Verdict → String
  | .approved => "APPROVED"
  | .needsRevision => "NEEDS_REVISION"
  | .rejected => "REJECTED"
  | .unknown => "UNKNOWN"

/-- The lines for one issue, headed by its number. -/
def Issue.lines (number : Nat) (issue : Issue) : List String :=
  let place := match issue.location with
    | some location => if location.isEmpty then [] else ["- **Location**: " ++ location]
    | none => []
  ["### Issue " ++ toString number,
    "- **Severity**: " ++ issue.severity.title,
    "- **Description**: " ++ issue.description] ++ place ++ [""]

/-- The lines for all issues, numbered from the given number on. -/
def Issue.linesFrom (number : Nat) : List Issue → List String
  | [] => []
  | issue :: issues => issue.lines number ++ linesFrom (number + 1) issues

/-- The opening tag of a written review. -/
def Review.openingTag (verdict : Verdict) (iteration : Option Int) (reviewer : Option String) :
    String :=
  let round := match iteration with
    | some n => " iteration=\"" ++ toString n ++ "\""
    | none => ""
  let name := match reviewer with
    | some name => if name.isEmpty then "" else " reviewer=\"" ++ name ++ "\""
    | none => ""
  "<review status=\"" ++ verdict.word ++ "\"" ++ round ++ name ++ ">"

/-- The review as a block with an issues section and a verdict section. -/
def Review.render (review : Review) (iteration : Option Int := none)
    (reviewer : Option String := none) : String :=
  let issues :=
    if review.issues.isEmpty then ["(none)", ""] else Issue.linesFrom 1 review.issues
  joinLines ([Review.openingTag review.verdict iteration reviewer, "", "## Issues", ""] ++ issues ++
    ["## Verdict", "", review.verdict.capitals, "", "</review>"])

end PlanCycle
