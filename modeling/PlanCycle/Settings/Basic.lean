/-
Module: PlanCycle.Settings.Basic
Purpose: What can be configured.
Main exports:
  Settings, Settings.changeFolder, Settings.recordPath, Settings.keepsRecordsInside, Environment
-/
import PlanCycle.Agent.Basic
import PlanCycle.Number.Shortest
import PlanCycle.Settings.Path
import PlanCycle.Usage.Pricing

namespace PlanCycle

open Number

/-- Named variables in the order in which they were set. -/
abbrev Environment := List (String × String)

/-- The value of a variable. -/
def Environment.find? (environment : Environment) (name : String) : Option String :=
  (List.find? (·.1 == name) environment).map (·.2)

/-- The settings with their defaults.  Times are in seconds. -/
structure Settings where
  projectRoot : Path := ⟨"", []⟩
  changesFolder : Path := ⟨"", ["changeloop", "changes"]⟩
  stateFile : String := "state.db"
  geminiCommand : String := "gemini"
  codexCommand : String := "codex"
  claudeCommand : String := "claude"
  agentTimeout : Int := 600
  listingTimeout : Int := 30
  maxRetries : Int := 2
  retryDelay : Binary64 := .ofInt 5
  planningIterations : Int := 3
  selfReviewIterations : Int := 1
  pricingOverrides : List (String × List Decimal) := []

namespace Settings

/-- The folder of all changes. -/
def changesRoot (settings : Settings) (projectRoot : Path) : Path :=
  projectRoot.join settings.changesFolder

/-- The folder of a change. -/
def changeFolder (settings : Settings) (projectRoot : Path) (changeId : String) : Path :=
  (settings.changesRoot projectRoot).child changeId

/-- Where the records of a change are kept whose folder is given.  A path with a start of its own
leads to one place for all changes. -/
def recordPath (settings : Settings) (place : Path) : Path :=
  place.resolve (.ofText settings.stateFile)

/-- Whether the records of each change are kept in its own folder. -/
def keepsRecordsInside (settings : Settings) : Bool :=
  let file := Path.ofText settings.stateFile
  file.start == "" && !file.names.isEmpty && !file.names.contains ".."

/-- The command that starts a provider's program. -/
def command (settings : Settings) : Provider → String
  | .gemini => settings.geminiCommand
  | .codex => settings.codexCommand
  | .claude => settings.claudeCommand

/-- The prices in force. -/
def prices (settings : Settings) : PriceTable :=
  PriceTable.builtIn.withOverrides settings.pricingOverrides

end Settings

end PlanCycle
