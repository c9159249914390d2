/-
Module: PlanCycle.Cycle.Round
Purpose: Planning cycles: from a request to an approved or rejected plan.
Main exports:
  critiqueRound, runCycle, runChallenge, outcomeFromRecords
-/
import PlanCycle.Cycle.Step

namespace PlanCycle

open Number

/-!
A cycle has the missing documents written, checks their structure and has them criticised
and revised in turn.  A change whose documents are all there gets no call of an agent; its
outcome is read from its records.
-/

namespace Cycle

/-- Critiques and revisions in turn, from one iteration on, as many as are left.  There is no
outcome if none is left. -/
def critiquesFrom (context : CycleContext) (iteration : Nat) :
    (left : Nat) → Run (Option CycleOutcome)
  | 0 => Run.done none
  | left + 1 => do
    match ← challengeStep context iteration with
    | .ended outcome => return some outcome
    | .done review =>
      match ← reviseStep context iteration review with
      | .ended outcome => return some outcome
      | .done _ => critiquesFrom context (iteration + 1) left

/-- One round of critiques.  A policy without critiques exhausts at once. -/
def critiqueRound (context : CycleContext) : Run CycleOutcome := do
  let outcome ← critiquesFrom context 1 context.policy.planningIterations.toNat
  return outcome.getD (.exhausted 0)

/-- Checks the documents, then has them criticised. -/
def challengePlan (context : CycleContext) : Run CycleOutcome := do
  match ← validateStep context with
  | .ended outcome => return outcome
  | .done _ => critiqueRound context

/-- Has the missing documents written, checked and criticised. -/
def makePlan (context : CycleContext) : Run CycleOutcome := do
  match ← generateStep context with
  | .ended outcome => return outcome
  | .done _ => challengePlan context

/-- Whether all documents that a plan needs are there. -/
def isWritten (folder : ChangeFolder) : Except FileFault Bool :=
  folder.required.map fun artifacts => artifacts.all folder.has

/-- The outcome of a proposed change whose documents are valid, from its last critique. -/
def proposedOutcome (policy : CyclePolicy) (latest : Option ReviewEntry) : CycleOutcome :=
  match latest.filter fun entry =>
      entry.verdict == Verdict.needsRevision.word && !entry.issues.isEmpty with
  | none => .error .state "challenge"
      "Artifacts exist but the change has no applied critique; run `changeloop challenge`"
  | some entry =>
    if entry.iteration < policy.planningIterations then
      .error .state "challenge"
        ("Critique round interrupted after " ++ intText entry.iteration ++ " of " ++
          intText policy.planningIterations ++ " critiques; run `changeloop challenge`")
    else .exhausted entry.issues.length

/-- The outcome of a change whose documents are there. -/
def outcomeFromRecords (context : CycleContext) (phase : Phase) : Run CycleOutcome := do
  let latest ← Run.look (·.store.latestCritique? context.changeId)
  if phase = .rejected then return .rejected
  else do
    let validation ← validated context
    if !validation.isOk then
      return .error .validation "validate" ("; ".intercalate (validation.errors.map Problem.text))
    else if phase ≠ .proposed then return .approved
    else return proposedOutcome context.policy latest

/-- Whether a change only has to be validated: it is not proposed, or its plan is written. -/
def onlyValidates (context : CycleContext) (phase : Phase) : Run Bool := do
  if phase ≠ .proposed then return true
  else Run.ofFiles (isWritten (← documents context))

/-- A planning cycle on a change in a phase. -/
def runCycle (context : CycleContext) (phase : Phase) : Run CycleOutcome := do
  if ← onlyValidates context phase then do
    Run.say "[dim]All artifacts present; validating only[/dim]"
    outcomeFromRecords context phase
  else makePlan context

/-- A new round of critiques on a change in a phase. -/
def runChallenge (context : CycleContext) (phase : Phase) : Run CycleOutcome := do
  if phase = .proposed then challengePlan context
  else
    return .error .state "challenge"
      ("Only proposed changes can be challenged; " ++ context.changeId ++ " is " ++ phase.word)

end Cycle

end PlanCycle
