/-
Module: PlanCycle.CommandLine.Display
Purpose: How outcomes and changes are shown.
Main exports:
  outcomePanel, statusDisplay, listDisplay, shownText?, statusDocument
-/
import PlanCycle.Cycle.Lifecycle
import PlanCycle.Json.Writing

namespace PlanCycle.CommandLine

open Number Text

/-- A text in a style. -/
def styled (style text : String) : String :=
  "[" ++ style ++ "]" ++ text ++ "[/" ++ style ++ "]"

/-- The style in which an outcome is shown. -/
def outcomeStyle : CycleOutcome → String
  | .approved => "green"
  | .exhausted _ => "yellow"
  | _ => "red"

/-- What is worth knowing about an outcome. -/
def outcomeDetails : CycleOutcome → List String
  | .exhausted issues =>
    ["Open issues: " ++ toString issues,
      "Run `changeloop challenge` to continue, or edit the artifacts by hand."]
  | .error kind step message =>
    ["Step: " ++ step, "Kind: " ++ kind.word, "Error: " ++ message]
  | _ => []

/-- The outcome of a cycle. -/
def outcomePanel (id : String) (outcome : CycleOutcome) : Event :=
  let head := "Outcome: " ++ styled (outcomeStyle outcome) outcome.word
  .panel ("Change: " ++ id) (joinLines (head :: outcomeDetails outcome))

/-- A text, or a dash if there is none. -/
def orDash : Option String → String
  | none | some "" => "-"
  | some text => text

/-- Digits in groups of three, counted from the right. -/
def groupThousands (digits : List Char) : List Char :=
  let parted := digits.reverse.zipIdx.flatMap fun (digit, place) =>
    if place ≠ 0 ∧ place % 3 = 0 then [',', digit] else [digit]
  parted.reverse

/-- A number with a comma between each three digits. -/
def grouped (n : Int) : String :=
  let digits := groupThousands (toString n.natAbs).toList
  String.ofList (if n < 0 then '-' :: digits else digits)

/-- A sum of money with four decimal places. -/
def money (sum : Decimal) : String := "$" ++ sum.fixed 4

/-- What a change has used. -/
def usageLine (usage : UsageTotals) : String :=
  "Usage: " ++ toString usage.calls ++ " call(s), " ++ grouped usage.tokensIn ++ " in / " ++
    grouped usage.tokensOut ++ " out, " ++ money usage.cost

/-- A change at a glance. -/
def statusPanel (status : ChangeStatus) : Event :=
  let title := if status.description = "" then status.changeId else status.description
  .panel ("Change: " ++ status.changeId)
    (joinLines
      [styled "bold" title, "", "Phase: " ++ styled "cyan" status.phase.word,
        "Iteration: " ++ intText status.iteration,
        "Latest review: " ++ orDash status.latestReview,
        "Last action: " ++ orDash status.lastAction, "Session: " ++ orDash status.sessionId])

/-- The documents of a change. -/
def artifactTable (status : ChangeStatus) : Event :=
  .table "Artifacts" ["Artifact", "Present"]
    (status.artifacts.map fun (name, present) =>
      [name, if present then styled "green" "yes" else styled "red" "no"])

/-- A change, its documents and what it has used. -/
def statusDisplay (status : ChangeStatus) : List Event :=
  [statusPanel status, artifactTable status, .line (usageLine status.usage)]

/-- A change in a table of changes. -/
def listRow (status : ChangeStatus) : List String :=
  [status.changeId, status.phase.word, intText status.iteration, orDash status.latestReview,
    money status.usage.cost]

/-- All changes of a project. -/
def listDisplay : List ChangeStatus → Event
  | [] => .line "[dim]No changes found[/dim]"
  | changes =>
    .table "Changes" ["Change", "Phase", "Iteration", "Latest review", "Cost"]
      (changes.map listRow)

/-- An event as plain text, if it is one that is shown: a title stands above what it names, and
the cells of a row are set apart by bars. -/
def shownText? : Event → Option String
  | .line text => some text
  | .panel title text => some (joinLines [title, text])
  | .table title columns rows =>
    some (joinLines (title :: (columns :: rows).map (" | ".intercalate ·)))
  | .warning text => some text
  | .asked .. | .answered .. | .ran .. => none

/-- A text, or null if there is none. -/
def textOrNull : Option String → Json
  | some text => .string text
  | none => .null

/-- Totals of use as a document. -/
def usageDocument (usage : UsageTotals) : Json :=
  .object
    [("calls", .int usage.calls), ("tokens_in", .int usage.tokensIn),
      ("tokens_out", .int usage.tokensOut), ("cost", .string usage.cost.text)]

/-- A change at a glance as a document. -/
def statusDocument (status : ChangeStatus) : Json :=
  .object
    [("change_id", .string status.changeId), ("phase", .string status.phase.word),
      ("iteration", .int status.iteration), ("description", .string status.description),
      ("session_id", textOrNull status.sessionId), ("last_action", textOrNull status.lastAction),
      ("usage_summary", usageDocument status.usage),
      ("latest_review", textOrNull status.latestReview),
      ("artifacts", .object (status.artifacts.map fun (name, present) => (name, .bool present)))]

end PlanCycle.CommandLine
