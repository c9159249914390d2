/-
Module: PlanCycle.Cycle.Lifecycle
Purpose: Creating, implementing, archiving and reopening a change, and its status.
Main exports:
  ChangeStatus, Lifecycle.status, Lifecycle.create, Lifecycle.implement, Lifecycle.archive,
  Lifecycle.reenter
-/
import PlanCycle.Cycle.Round
import PlanCycle.TaskGraph.Order

namespace PlanCycle

open Number Text

/-- A change at a glance. -/
structure ChangeStatus where
  changeId : String
  phase : Phase
  iteration : Int
  description : String
  sessionId : Option String
  lastAction : Option String
  usage : UsageTotals
  latestReview : Option String
  /-- The documents that the plan needs, with whether they exist. -/
  artifacts : List (String × Bool)
deriving Repr, Inhabited

namespace Lifecycle

/-- The status of a change, from its records and its documents. -/
def statusOf (id : String) (folder : ChangeFolder) (store : Store) : Except Stop ChangeStatus :=
  match store.find? id with
  | none => .error (.failure (.changeNotFound id))
  | some change =>
    match folder.required with
    | .error fault => .error (.ofFile fault)
    | .ok artifacts =>
      .ok
        { changeId := id, phase := change.phase, iteration := change.iteration
          description := change.description, sessionId := change.sessionId
          lastAction := change.lastAction, usage := summarize (store.usageOf id)
          latestReview := (store.latestCritique? id).map (·.verdict)
          artifacts := artifacts.map fun artifact => (artifact.name, folder.has artifact) }

/-- The status of a change. -/
def status (id : String) (place : Path) : Run ChangeStatus := fun world =>
  (statusOf id ⟨place, world.files⟩ world.store, world)

/-- Whether a text can name a change: small letters and digits, and dashes after the first.  A
line feed may end it. -/
def isChangeId (id : List Char) : Bool :=
  let isStart (c : Char) := c.isLower || c.isDigit
  match dropLastNewline id with
  | c :: rest => isStart c && rest.all fun c => isStart c || c == '-'
  | [] => false

/-- Creates the records of a change. -/
def create (id description : String) (place : Path) : Run ChangeStatus := do
  Run.session do
    let _ ← Session.create id description
    let _ ← Session.logEvent
      { changeId := id, step := "create", event := "completed", message := some description }
  status id place

/-- The task graph in the task list of a change. -/
def taskGraph (context : CycleContext) : Run TaskGraph := do
  let document ← Run.ofFiles ((← Cycle.documents context).read .tasks)
  let reading := TaskGraph.read document
  Run.warnAll (List.replicate reading.skipped skippedBlockWarning)
  Run.ofExcept (reading.graph.mapError Stop.ofTaskList)

/-- A task in one line. -/
def taskLine (task : Task) : String :=
  task.id ++ " " ++ task.title ++ " (" ++ task.file ++ ")"

/-- Whether escapes in the task list of a change name halves of surrogate pairs. -/
def namesHalves (folder : ChangeFolder) : Bool :=
  (folder.read .tasks).toOption.any fun document => Yaml.namesHalf document.toList

/-- Hands tasks to the implementer. -/
def implementTasks (context : CycleContext) (pending : List String) : Run Unit := do
  let folder ← Cycle.documents context
  let prompt ← Run.ofFiles (folder.implementationPrompt context.changeId pending)
  let call : AgentCall :=
    { step := "implement", role := .implementer, prompt
      isWhole := !namesHalves folder || pending.all fun line => !holdsHalf line.toList
      environment := Cycle.environment context .implementer folder }
  let answer ← call.run context
  warnOfUsage "implement" answer
  Run.session do
    let _ ← recordUsage context "implement" answer

/-- Keeps how far the implementation is. -/
def keepProgress (id : String) (graph : TaskGraph) : Session Unit := do
  let change ← Session.load id
  if change.phase = .challenged then
    let _ ← Session.advance id (·.moveTo .implementing)
  if graph.allDone then
    let _ ← Session.advance id (·.moveTo .complete)
  let (done, total) := graph.progress
  let _ ← Session.modify id fun change =>
    { change with
      lastAction := some ("implementation " ++ toString done ++ "/" ++ toString total ++
        " tasks done") }
  let _ ← Session.logEvent
    { changeId := id, step := "implement", event := "completed"
      details := .object [("done", .int done), ("total", .int total)] }

/-- Has the pending tasks of a change implemented, given how to find the implementer once it is
needed. -/
def implement (context : CycleContext) (implementer : Run CycleContext) : Run ChangeStatus := do
  let change ← Run.session (Session.load context.changeId)
  if change.phase ≠ .challenged ∧ change.phase ≠ .implementing then
    Run.fail (.transition change.phase .implementing)
  else do
    let graph ← taskGraph context
    match graph.pending with
    | [] => Run.say "[dim]No pending tasks[/dim]"
    | pending => do
      Run.say ("[cyan]Implementing " ++ toString pending.length ++ " task(s)...[/cyan]")
      implementTasks (← implementer) (pending.map taskLine)
    let graph ← taskGraph context
    Run.session (keepProgress context.changeId graph)
    Run.say ("[green]✓ " ++ toString graph.progress.1 ++ "/" ++ toString graph.progress.2 ++
      " tasks done[/green]")
    status context.changeId context.place

/-- Archives a change that is complete. -/
def archive (id : String) (place : Path) : Run ChangeStatus := do
  Run.session do
    let _ ← Session.advance id (·.moveTo .archived)
    let _ ← Session.modify id fun change => { change with lastAction := some "archived" }
    let _ ← Session.logEvent { changeId := id, step := "archive", event := "completed" }
  status id place

/-- The change proposed again, if it was rejected. -/
def reopened (change : Change) : Except Failure Change :=
  if change.phase = .rejected then change.reenter
  else .error (.notRejected change.id change.phase)

/-- Proposes a rejected change again. -/
def reenter (id : String) (place : Path) : Run ChangeStatus := do
  Run.session do
    let _ ← Session.advance id reopened
    let _ ← Session.modify id fun change =>
      { change with lastAction := some "reopened after rejection" }
    let _ ← Session.logEvent { changeId := id, step := "reenter", event := "completed" }
  status id place

end Lifecycle

end PlanCycle
