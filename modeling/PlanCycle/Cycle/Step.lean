/-
Module: PlanCycle.Cycle.Step
Purpose: The steps of a planning cycle.
Main exports:
  StepEnd, runStep, generateStep, validateStep, challengeStep, reviseStep
-/
import PlanCycle.Change.Validation
import PlanCycle.Cycle.Call
import PlanCycle.Cycle.Prompt
import PlanCycle.Review.Reading
import PlanCycle.Review.Rendering
import PlanCycle.Text.Fence

namespace PlanCycle

open Number Text

/-- How a step ends: with a value for the next step, or with the outcome of the cycle. -/
inductive StepEnd (α : Type) where
  | done (value : α)
  | ended (outcome : CycleOutcome)
deriving Repr, Inhabited

/-- What is logged about the end of a step. -/
def StepEnd.note? {α : Type} : StepEnd α → Option String
  | .done _ => none
  | .ended outcome => some outcome.describe

namespace Cycle

/-- Logs an event of a step. -/
def logStep (context : CycleContext) (step event : String) (message : Option String := none)
    (details : Json := .object []) : Run Unit := do
  let _ ← Run.session (Session.logEvent
    { changeId := context.changeId, step, event, message, details })

/-- The line about a step that failed. -/
def failureLine (step : String) (failure : Failure) : String :=
  "[red]✗ " ++ step ++ ": " ++ failure.message ++ "[/red]"

/-- Logs that a step failed, after showing it.  A wording without an encoding cannot be logged. -/
def logFailure (context : CycleContext) (step : String) (failure : Failure) : Run Unit := do
  Run.relay context.console (failureLine step failure)
  if failure.isWhole then
    logStep context step "failed" failure.message (.object [("kind", .string failure.kind.word)])
  else Run.stop (.breakdown .unencodable)

/-- Runs a step between the two log events that frame it.  A failure ends the cycle. -/
def runStep {α : Type} (context : CycleContext) (name : String) (body : Run (StepEnd α)) :
    Run (StepEnd α) := do
  logStep context name "started"
  match ← Run.attempt body with
  | .ok ending => do
    logStep context name "completed" ending.note?
    return ending
  | .error failure => do
    logFailure context name failure
    return .ended (.ofFailure name failure)

/-- Looks at the documents of the change. -/
def documents (context : CycleContext) : Run ChangeFolder :=
  Run.look context.folder

/-- The variables for the agent of a role. -/
def environment (context : CycleContext) (role : Role) (folder : ChangeFolder) :
    List (String × String) :=
  folder.agentVariables (context.provider role)

/-- Whether an answer holds anything but blanks. -/
def saysSomething (answer : AgentAnswer) : Bool :=
  !isBlankText answer.output.toList

/-! ### Generation -/

/-- A conversation's id as it is kept; a value that is no text is kept as its text. -/
def sessionText : Json → Except Stop String
  | .string id => .ok id
  | .bool true => .ok "1"
  | .int n => if Session.fits [n] then .ok (intText n) else .error (.breakdown .overflow)
  | .float x => .ok (x.text .plain)
  | .halved _ => .error (.breakdown .unencodable)
  | _ => .error (.breakdown .unstorable)

/-- Keeps the id of the conversation in which the proposal was written, if there is one. -/
def keepSession (context : CycleContext) (artifact : Artifact) (answer : AgentAnswer) :
    Session Unit := do
  if artifact = .proposal ∧ answer.sessionId.isPresent then
    match sessionText answer.sessionId with
    | .ok id => do
      let _ ← Session.modify context.changeId fun change => { change with sessionId := some id }
    | .error stop => fun _ => .error stop

/-- Keeps what was done last. -/
def keepAction (context : CycleContext) (action : String) : Session Unit := do
  let _ ← Session.modify context.changeId fun change => { change with lastAction := some action }

/-- The document that an answer holds. -/
def documentOf (output : String) : String :=
  String.ofList (trim (withoutFence output.toList) ++ ['\n'])

/-- Writes the document that an answer holds.  One without an encoding leaves an empty file
behind. -/
def putDocument (artifact : Artifact) (answer : AgentAnswer) : Run Unit := do
  let text := documentOf answer.output
  if answer.encodes text then Run.changeFiles (·.write artifact.file text)
  else do
    Run.changeFiles (·.write artifact.file "")
    Run.stop (.breakdown .unencodable)

/-- What stops asking for a document. -/
def promptStop : PromptFault → Stop
  | .file fault => .ofFile fault
  | .noRules => .breakdown .noRules

/-- Has a document written by the generator, or writes what the generator answers. -/
def writeDocument (context : CycleContext) (artifact : Artifact) : Run Unit := do
  Run.say ("[cyan]Generating " ++ artifact.name ++ "...[/cyan]")
  let step := "generate:" ++ artifact.name
  let folder ← documents context
  let prompt ← Run.ofExcept
    ((folder.generationPrompt context.changeId context.description artifact).mapError promptStop)
  let call : AgentCall :=
    { step, role := .generator, prompt, environment := environment context .generator folder }
  let answer ← call.run context fun files answer =>
    files.isFile artifact.file || saysSomething answer
  let after ← documents context
  if !after.has artifact then putDocument artifact answer
  warnOfUsage step answer
  Run.session do
    let _ ← recordUsage context step answer
    let _ ← Session.load context.changeId
    keepSession context artifact answer
    keepAction context ("generated " ++ artifact.name)
  Run.say ("[green]✓ " ++ artifact.name ++ " written[/green]")

/-- An issue as it is kept. -/
def issueRecord (issue : Issue) : Json :=
  .object
    [("severity", .string issue.severity.word), ("description", .string issue.description),
      ("location", (issue.location.map Json.string).getD .null)]

/-- Keeps a review of the change. -/
def keepReview (context : CycleContext) (artifact : Artifact) (kind : String) (review : Review)
    (iteration : Int) : Session Unit := do
  let _ ← Session.addReview
    { changeId := context.changeId, artifact := artifact.name, kind
      verdict := review.verdict.word, issues := review.issues.map issueRecord
      rawText := review.rawText, iteration }

/-- Shows what an author's look at its document gave. -/
def showSelfReview (artifact : Artifact) (verdict : Verdict) : Run Unit :=
  match verdict with
  | .unknown => do
    Run.warn ("Self-review of " ++ artifact.name ++
      " returned no review marker; treating as pass")
    Run.say ("[yellow]⚠ self-review of " ++ artifact.name ++
      ": no review marker, treating as pass[/yellow]")
  | .needsRevision => Run.say ("[yellow]self-review revised " ++ artifact.name ++ "[/yellow]")
  | verdict =>
    Run.say ("[green]✓ self-review of " ++ artifact.name ++ ": " ++ verdict.word ++ "[/green]")

/-- Has the generator look at a document again. -/
def selfReview (context : CycleContext) (artifact : Artifact) : Run Unit := do
  let step := "self-review:" ++ artifact.name
  let folder ← documents context
  let call : AgentCall :=
    { step, role := .generator, prompt := folder.selfReviewPrompt context.changeId artifact
      environment := environment context .generator folder }
  let answer ← call.run context
  let review := Review.parse answer.output
  Run.warnAll (Review.warnings answer.output)
  showSelfReview artifact review.verdict
  warnOfUsage step answer
  Run.session do
    let _ ← recordUsage context step answer
    let change ← Session.load context.changeId
    requireWhole answer
    keepReview context artifact ReviewEntry.selfReview review change.iteration

/-- Has a document written and looked at again. -/
def generate (context : CycleContext) (artifact : Artifact) : Run Unit := do
  writeDocument context artifact
  if 0 < context.policy.selfReviewIterations then selfReview context artifact

/-- Has a document written unless it is there. -/
def generateMissing (context : CycleContext) (artifact : Artifact) : Run Unit := do
  if (← documents context).has artifact then
    Run.say ("[dim]• " ++ artifact.name ++ " exists, skipping[/dim]")
  else generate context artifact

/-- Has the missing ones of documents written, in order. -/
def generateAll (context : CycleContext) : List Artifact → Run Unit
  | [] => Run.done ()
  | artifact :: artifacts => do
    generateMissing context artifact
    generateAll context artifacts

/-- Has all missing documents written.  Which specs there are is known once the proposal is
there. -/
def generateStep (context : CycleContext) : Run (StepEnd Unit) :=
  runStep context "generate" do
    generateMissing context .proposal
    let required ← Run.ofFiles (← documents context).required
    generateAll context (required.drop 1)
    return .done ()

/-! ### Validation -/

/-- The result of a check of the documents, after the warnings that go with it. -/
def validated (context : CycleContext) : Run Validation := do
  let checkup := (← documents context).checkup
  Run.warnAll (List.replicate checkup.skipped skippedBlockWarning)
  Run.ofExcept (checkup.result.mapError .breakdown)

/-- Shows problems that do not make a change invalid. -/
def showProblems : List Problem → Run Unit
  | [] => Run.done ()
  | problem :: problems => do
    Run.say ("[yellow]⚠ " ++ problem.text ++ "[/yellow]")
    showProblems problems

/-- Checks the structure of the documents. -/
def validateStep (context : CycleContext) : Run (StepEnd Unit) :=
  runStep context "validate" do
    let validation ← validated context
    showProblems validation.warnings
    match validation.failure? with
    | some failure => Run.fail failure
    | none => return .done ()

/-! ### Critique and revision -/

/-- Whether a verdict of a critique can be applied. -/
def isApplicable (review : Review) : Bool :=
  review.verdict != .unknown && review.isConsistent

/-- Keeps a critique and applies its verdict. -/
def keepCritique (context : CycleContext) (answer : AgentAnswer) (review : Review)
    (iteration : Int) : Session Unit := do
  let _ ← recordUsage context "challenge" answer
  requireWhole answer
  keepReview context .proposal ReviewEntry.critique review iteration
  if isApplicable review then
    let _ ← Session.advance context.changeId (·.applyVerdict review.verdict)
  keepAction context ("challenge " ++ intText iteration ++ ": " ++ review.verdict.word)

/-- A critique of the plan, as it is asked for, read and kept. -/
def critique (context : CycleContext) (iteration : Nat) : Run Review := do
  let folder ← documents context
  Run.say ("[cyan]Challenging " ++ context.changeId ++ " (iteration " ++ toString iteration ++
    ")...[/cyan]")
  let prompt ← Run.ofFiles (folder.critiquePrompt context.changeId iteration context.criticName)
  let call : AgentCall :=
    { step := "challenge", role := .critic, prompt,
      environment := environment context .critic folder }
  let answer ← call.run context fun _ answer => saysSomething answer
  let review := Review.parse answer.output
  Run.warnAll (Review.warnings answer.output)
  warnOfUsage "challenge" answer
  Run.session (keepCritique context answer review iteration)
  return review

/-- What follows from a critique that is kept.  One with a verdict that cannot be applied is a
failure; the others are added to the critiques of the plan. -/
def applyCritique (context : CycleContext) (iteration : Nat) (review : Review) :
    Run (StepEnd Review) := do
  if review.verdict = .unknown then Run.fail .noVerdict
  else if !review.isConsistent then Run.fail (.noIssues review.verdict)
  else
    Run.changeFiles (·.append (Artifact.file .challenge)
      (review.render (some iteration) (some context.criticName) ++ "\n\n"))
    match review.verdict with
    | .approved => do
      Run.say "[green]✓ Plan approved[/green]"
      return .ended .approved
    | .rejected => do
      Run.say "[red]✗ Plan rejected[/red]"
      return .ended .rejected
    | _ => do
      Run.say ("[yellow]Revision requested: " ++ toString review.issues.length ++
        " issue(s)[/yellow]")
      return .done review

/-- Has the plan criticised. -/
def challengeStep (context : CycleContext) (iteration : Nat) : Run (StepEnd Review) :=
  runStep context "challenge" do
    let review ← critique context iteration
    applyCritique context iteration review

/-- The index of the conversation in which the plan was written. -/
def conversationIndex (context : CycleContext) : Run Int := do
  let change ← Run.session (Session.load context.changeId)
  match change.sessionId.filter (· != "") with
  | none => Run.fail (.session .unrecorded)
  | some id => do
    let result ← Run.runProcess (context.lister.spawn context.root)
    Run.ofExcept (context.lister.resolve result id)

/-- Has the plan revised in the conversation in which it was written. -/
def revise (context : CycleContext) (iteration : Nat) (review : Review) : Run Unit := do
  let index ← conversationIndex context
  Run.say ("[cyan]Revising in session #" ++ intText index ++ " (iteration " ++
    toString iteration ++ ")...[/cyan]")
  let step := "revise:" ++ toString iteration
  let folder ← documents context
  match Resume.byIndex? index with
  | none => Run.stop (.breakdown (.resumeIndex index))
  | some resume => do
    let call : AgentCall :=
      { step, role := .generator, resume
        prompt := folder.revisionPrompt context.changeId (review.render (some iteration))
        environment := environment context .generator folder }
    let answer ← call.run context
    warnOfUsage step answer
    Run.session do
      let _ ← recordUsage context step answer
      let _ ← Session.modify context.changeId fun change =>
        { change with iteration := change.iteration + 1 }
      keepAction context ("revised after challenge " ++ toString iteration)

/-- Has the plan revised, unless no further critique is allowed. -/
def reviseStep (context : CycleContext) (iteration : Nat) (review : Review) :
    Run (StepEnd Unit) :=
  runStep context "revise" do
    if context.policy.planningIterations ≤ iteration then
      return .ended (.exhausted review.issues.length)
    else do
      revise context iteration review
      return .done ()

end Cycle

end PlanCycle
