/-
Module: PlanCycle.Agent.Setup
Purpose: Which program plays a role, with which model and for how long.
Main exports:
  RoleConfig, RoleFault, RoleConfig.resolve, AgentSetup, AgentSetup.resolve, AgentSetup.command
-/
import PlanCycle.Agent.Command
import PlanCycle.Number.Reading
import PlanCycle.Settings.Basic
import PlanCycle.Text.ShellWords

namespace PlanCycle

open Number Text

/-- Who plays a role. -/
structure RoleConfig where
  provider : Provider
  model : String
  description : String
  /-- A time limit of its own, in seconds. -/
  timeout : Option Int := none
deriving Repr, DecidableEq

/-- Why nobody plays a role. -/
inductive RoleFault where
  /-- A time limit that is no whole number. -/
  | timeout
  | unknownProvider (role : Role) (name : String)
deriving Repr, DecidableEq

namespace RoleConfig

/-- Who plays a role unless variables say otherwise. -/
def standard : Role → RoleConfig
  | .generator =>
    { provider := .gemini, model := "gemini-2.5-pro"
      description := "Writes and revises proposal, specs and tasks in one resumable session" }
  | .critic =>
    { provider := .codex, model := "gpt-5.2-codex"
      description := "Challenges the generated plan and returns a review verdict" }
  | .implementer =>
    { provider := .claude, model := "claude-sonnet-4-5"
      description := "Implements the approved task list" }

/-- The value of a variable of a role, unless it is empty. -/
def valueOf? (environment : Environment) (role : Role) (name : String) : Option String :=
  (environment.find? ("ROLE_" ++ role.capitals ++ "_" ++ name)).filter (· != "")

/-- The time limit that variables give to a role. -/
def timeoutOf (environment : Environment) (role : Role) : Except RoleFault (Option Int) :=
  match valueOf? environment role "TIMEOUT" with
  | none => .ok none
  | some text =>
    match readInt? 10 text.toList with
    | some seconds => .ok (some seconds)
    | none => .error .timeout

/-- Who plays a role, after the variables of the role. -/
def resolve (environment : Environment) (role : Role) : Except RoleFault RoleConfig := do
  let config := standard role
  let timeout ← timeoutOf environment role
  let name := (valueOf? environment role "PROVIDER").getD config.provider.name
  match Provider.ofName? name with
  | none => .error (.unknownProvider role name)
  | some provider =>
    .ok
      { config with
        provider, timeout
        model := (valueOf? environment role "MODEL").getD config.model }

end RoleConfig

/-- A program that is ready to be called for a role. -/
structure AgentSetup where
  role : Role
  provider : Provider
  model : String
  /-- In seconds. -/
  timeout : Int
  /-- The command that starts the program, as it is configured. -/
  command : String
deriving Repr, DecidableEq

/-- Why a program cannot be called. -/
inductive CommandFault where
  /-- The configured command leaves a quote open or ends in a backslash. -/
  | unfinishedCommand
  /-- The program cannot go on with a conversation of a given index. -/
  | indexedResume (provider : Provider)
deriving Repr, DecidableEq

namespace AgentSetup

/-- The first number that is given and not zero. -/
def firstTimeout (limits : List (Option Int)) (last : Int) : Int :=
  ((limits.filterMap id).find? (· != 0)).getD last

/-- The program for a role. -/
def resolve (settings : Settings) (environment : Environment) (role : Role)
    (timeout : Option Int := none) : Except RoleFault AgentSetup := do
  let config ← RoleConfig.resolve environment role
  .ok
    { role
      provider := config.provider
      model := config.model
      timeout := firstTimeout [timeout, config.timeout] settings.agentTimeout
      command := settings.command config.provider }

/-- The words of the command line of one call. -/
def words (setup : AgentSetup) (resume : Resume) : Except CommandFault (List String) :=
  match shellWords setup.command with
  | none => .error .unfinishedCommand
  | some start =>
    match setup.provider.arguments? setup.model resume with
    | none => .error (.indexedResume setup.provider)
    | some arguments => .ok (start ++ arguments)

end AgentSetup

end PlanCycle
