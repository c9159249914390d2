/-
Module: PlanCycle.Main
Purpose: The program: arguments and variables in, what is shown and a status out.
Main exports:
  main
-/
import PlanCycle.CommandLine.Execution
import PlanCycle.Settings.Reading

open PlanCycle CommandLine

namespace PlanCycle.Program

/-- The names of the variables that the program looks at. -/
def variableNames : List String :=
  Settings.fields.map (fun field => (Settings.namePart ++ field).toUpper) ++
    Role.all.flatMap fun role =>
      ["PROVIDER", "MODEL", "TIMEOUT"].map fun name => "ROLE_" ++ role.capitals ++ "_" ++ name

/-- The variables that are set. -/
def environment : IO Environment :=
  variableNames.filterMapM fun name => do
    return (← IO.getEnv name).map fun value => (name, value)

end PlanCycle.Program

/-- Runs the program.  It starts from a project without changes, and no agent's program can be
started from here. -/
def main (arguments : List String) : IO UInt32 := do
  let environment ← Program.environment
  match Settings.read environment with
  | .error _ =>
    IO.eprintln "Error: invalid settings"
    return 1
  | .ok settings =>
    let execution := execute { settings, environment } {} arguments
    for text in execution.events.filterMap shownText? do
      IO.println text
    IO.print execution.exit.out
    IO.eprint execution.exit.error
    return execution.exit.status.toUInt32
