/-
Module: PlanCycle.CommandLine.Execution
Purpose: Carrying out what the arguments of the program ask for.
Main exports:
  Exit, execute
-/
import PlanCycle.CommandLine.Display
import PlanCycle.CommandLine.Invocation
import PlanCycle.Cycle.Project

namespace PlanCycle.CommandLine

/-- How the program ends. -/
structure Exit where
  status : Nat := 0
  /-- Plain text that is written besides what is shown. -/
  out : String := ""
  /-- What is written about a failure. -/
  error : String := ""
  /-- What broke the program off. -/
  breakdown : Option Breakdown := none
deriving Repr, Inhabited, DecidableEq

/-- The program's end, the project afterwards and what was shown and done. -/
structure Execution where
  exit : Exit := {}
  project : Project
  events : List Event := []

/-- What is shown about a result, and the end of the program. -/
structure Conclusion where
  display : List Event := []
  exit : Exit := {}

namespace Exit

/-- The end after a fault in the arguments. -/
def ofFault (fault : UsageFault) : Exit where
  status := 2
  error := "Error: " ++ fault.message

/-- The end after something stopped a request. -/
def ofStop : Stop → Exit
  | .failure failure => { status := 1, error := "Error: " ++ failure.message ++ "\n" }
  | .breakdown breakdown => { status := 1, breakdown := some breakdown }

end Exit

namespace Execution

/-- Whether a console takes all texts of an event. -/
def isTaken (console : Console) : Event → Bool
  | .line text => console.takes text
  | .panel title text => console.takes title && console.takes text
  | .table title columns rows =>
    console.takes title && columns.all console.takes && rows.all (·.all console.takes)
  | _ => true

/-- The end of a request, with what is shown of its result.  A text that the console does not take
breaks the program off. -/
def conclude {α : Type} (console : Console) (report : Report α) (conclusion : α → Conclusion) :
    Execution :=
  match report.result with
  | .ok result =>
    let shown := conclusion result
    { exit :=
        if shown.display.all (isTaken console) then shown.exit
        else .ofStop (.breakdown .markup)
      project := report.project
      events := report.events ++ shown.display.takeWhile (isTaken console) }
  | .error stop => { exit := .ofStop stop, project := report.project, events := report.events }

/-- A result that is shown in one line. -/
def inLine (text : String) : Conclusion := { display := [.line text] }

/-- The outcome of a cycle; only an approved plan is a success. -/
def ofOutcome (id : String) (outcome : CycleOutcome) : Conclusion where
  display := [outcomePanel id outcome]
  exit := { status := if outcome.isOk then 0 else 1 }

/-- The status of a change. -/
def ofStatus (asJson : Bool) (status : ChangeStatus) : Conclusion :=
  if asJson then { exit := { out := (statusDocument status).renderIndented 2 ++ "\n" } }
  else { display := statusDisplay status }

end Execution

open Execution in
/-- Carries out a request on the changes under a folder. -/
def Request.execute (project : Project) (root : Path) (means : Means) : Request → Execution
  | .new id description =>
    conclude means.console (project.create root id description) fun status =>
      inLine (styled "green" ("✓ Created change " ++ status.changeId))
  | .cycle id => conclude means.console (project.cycle root id means) (ofOutcome id)
  | .challenge id => conclude means.console (project.challenge root id means) (ofOutcome id)
  | .status id asJson => conclude means.console (project.status root id) (ofStatus asJson)
  | .list =>
    conclude means.console { result := project.list root, project } fun changes =>
      { display := [listDisplay changes] }
  | .implement id =>
    conclude means.console (project.implement root id means) fun status =>
      inLine ("Phase: " ++ styled "cyan" status.phase.word)
  | .archive id =>
    conclude means.console (project.archive root id) fun _ =>
      inLine (styled "green" ("✓ Archived " ++ id))
  | .reenter id =>
    conclude means.console (project.reenter root id) fun _ =>
      inLine (styled "green" ("✓ " ++ id ++ " is proposed again"))

/-- The version of the program. -/
def versionLine : String := "main, version 0.1.0\n"

/-- What the program can be asked for. -/
def helpPage : String :=
  "Plan changes with generator and critic agents.\n\nCommands:\n" ++
    String.join (Command.all.map fun command =>
      "  " ++ " ".intercalate (command.name :: command.arguments) ++ "\n")

/-- Runs the program on a project with its arguments.  Agents are the configured programs,
of which those can be run that are given. -/
def execute (project : Project) (processes : Processes) (arguments : List String)
    (console : Console := {}) : Execution :=
  match Invocation.read (fun path => project.hasFile (.ofText path)) arguments with
  | .error fault => { exit := .ofFault fault, project }
  | .ok .version => { exit := { out := versionLine }, project }
  | .ok .help => { exit := { out := helpPage }, project }
  | .ok (.request root request) =>
    let root := (root.map Path.ofText).getD project.settings.projectRoot
    request.execute project root { processes, console }

end PlanCycle.CommandLine
