/-
Module: PlanCycle.Cycle.Call
Purpose: Asking an agent, again if it fails.
Main exports:
  CycleContext, AgentCall.invoke, AgentCall.tries, AgentCall.run, recordUsage, requireWhole
-/
import PlanCycle.Change.Documents
import PlanCycle.Cycle.World
import PlanCycle.Number.Shortest

namespace PlanCycle

open Number

/-- What a run on a change does not alter. -/
structure CycleContext where
  changeId : String
  /-- The root of the project. -/
  root : Path
  /-- The folder of the change. -/
  place : Path
  prices : PriceTable
  policy : CyclePolicy
  description : String := ""
  criticName : String := "codex"
  generatorProvider : Provider := .gemini
  criticProvider : Provider := .codex
  implementerProvider : Provider := .claude
  lister : SessionLister
  console : Console := {}

namespace CycleContext

/-- The documents of the change as they are in a world. -/
def folder (context : CycleContext) (world : World) : ChangeFolder :=
  ⟨context.place, world.files⟩

/-- The provider that plays a role. -/
def provider (context : CycleContext) : Role → Provider
  | .generator => context.generatorProvider
  | .critic => context.criticProvider
  | .implementer => context.implementerProvider

end CycleContext

namespace AgentCall

/-- An agent that has given the first of its answers; the last one stays. -/
def afterFirst (first : Reply) : List Reply → Agent
  | [] => .ready first []
  | second :: others => .ready second others

/-- The agents, one of them exchanged. -/
def withAgent (role : Role) (agent : Agent) (agents : Role → Agent) : Role → Agent :=
  fun other => if other = role then agent else agents other

/-- Asks an agent that has answers ready. -/
def askReady (call : AgentCall) (first : Reply) (others : List Reply) : Run AgentAnswer := do
  fun world =>
    (.ok (), { world with agents := withAgent call.role (afterFirst first others) world.agents })
  Run.applyEdits first.edits
  Run.ofExcept first.answer

/-- What is written to a program; a prompt without an encoding is not. -/
def input? (call : AgentCall) : Option String :=
  if call.isWhole then some call.prompt else none

/-- What the run of a program gives, if the prompt could be written to it. -/
def resultOf (call : AgentCall) (setup : AgentSetup) (words : List String)
    (result : ProcessResult) : Except Stop AgentAnswer :=
  if call.isWhole || !result.started then setup.answer words result
  else .error (.breakdown .unencodable)

/-- Asks an agent that is a program. -/
def askProgram (call : AgentCall) (root : Path) (setup : AgentSetup) : Run AgentAnswer := do
  let words ← Run.ofExcept ((setup.words call.resume).mapError Stop.ofCommand)
  let result ← Run.runProcess (AgentSetup.spawn root words call.input? call.environment)
  Run.ofExcept (call.resultOf setup words result)

/-- Asks an agent once. -/
def invoke (call : AgentCall) (root : Path) : Run AgentAnswer := do
  Run.emit (.asked call (← Run.look (·.files)))
  match ← Run.look (·.agents call.role) with
  | .ready first others => call.askReady first others
  | .program setup => call.askProgram root setup

/-- Whether asking again may help. -/
def isRetried : Failure → Bool
  | .invocation .. => true
  | .emptyAnswer _ => true
  | _ => false

/-- Asks once and checks the answer against the files as they are then. -/
def tryOnce (call : AgentCall) (root : Path) (accept : Folder → AgentAnswer → Bool) :
    Run AgentAnswer := do
  let answer ← call.invoke root
  let files ← Run.look (·.files)
  let accepted := accept files answer
  Run.emit (.answered call answer accepted files)
  if accepted then return answer else Run.fail (.emptyAnswer call.step)

/-- The line about an attempt that failed and is followed by another one. -/
def retryLine (call : AgentCall) (policy : CyclePolicy) (attempt : Nat) (failure : Failure) :
    String :=
  "[yellow]" ++ call.step ++ " failed (attempt " ++ toString attempt ++ "/" ++
    toString policy.attempts ++ "): " ++ failure.message ++ "; retrying in " ++
    policy.retryDelay.text .plain ++ "s[/yellow]"

/-- Asks until an answer is accepted or no attempt is left. -/
def tries (call : AgentCall) (context : CycleContext) (accept : Folder → AgentAnswer → Bool) :
    (left : Nat) → Run AgentAnswer
  | 0 => Run.stop (.breakdown .noAttempt)
  | left + 1 => do
    match ← Run.attempt (call.tryOnce context.root accept) with
    | .ok answer => return answer
    | .error failure =>
      if isRetried failure then
        if left = 0 then
          Run.fail (.retriesExhausted call.step context.policy.attempts failure)
        else do
          Run.relay context.console
            (call.retryLine context.policy (context.policy.attempts - left) failure)
          call.tries context accept left
      else Run.fail failure

/-- Asks as often as the policy allows.  The default accepts every answer. -/
def run (call : AgentCall) (context : CycleContext)
    (accept : Folder → AgentAnswer → Bool := fun _ _ => true) : Run AgentAnswer :=
  call.tries context accept context.policy.attempts

end AgentCall

namespace AgentAnswer

/-- What a call used, under a name of its model. -/
def usageOf (answer : AgentAnswer) (model : String) : TokenUsage :=
  { inputTokens := answer.inputTokens, outputTokens := answer.outputTokens, model }

/-- What a call used, if the name of the model is a text with an encoding. -/
def usage? (answer : AgentAnswer) : Option TokenUsage :=
  answer.model.string?.map answer.usageOf

/-- What a call used as it is shown, if the name of the model is a text. -/
def shownUsage? (answer : AgentAnswer) : Option TokenUsage :=
  answer.model.text?.map answer.usageOf

/-- What stops a record of a call whose model has no name that can be kept. -/
def modelFault (answer : AgentAnswer) : Breakdown :=
  if answer.model.isWhole then .namelessModel else .unencodable

end AgentAnswer

/-- Records what a call used. -/
def recordUsage (context : CycleContext) (step : String) (answer : AgentAnswer) :
    Session UsageRecord :=
  match answer.usage? with
  | some usage => Session.record context.prices context.changeId step usage
  | none => Session.breakDown answer.modelFault

/-- Stops unless an answer can be kept as it is. -/
def requireWhole (answer : AgentAnswer) : Session Unit :=
  if answer.isWhole then Session.done () else Session.breakDown .unencodable

/-- The warning about what a call used, if there is one. -/
def warnOfUsage (step : String) (answer : AgentAnswer) : Run Unit :=
  match answer.shownUsage? with
  | some usage => Run.warnAll (UsageRecord.warning? step usage).toList
  | none => Run.done ()

end PlanCycle
