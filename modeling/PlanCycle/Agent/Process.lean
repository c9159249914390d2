/-
Module: PlanCycle.Agent.Process
Purpose: Running programs: how a run ends and what an agent's answer is.
Main exports:
  ProcessResult, Spawn, AgentAnswer, AgentSetup.answer
-/
import PlanCycle.Failure

namespace PlanCycle

open Number

/-- How a run of a program ends. -/
inductive ProcessResult where
  | exited (status : Int) (stdout stderr : String)
  /-- It took too long and was stopped. -/
  | timedOut
  /-- It did not start. -/
  | unstartable (reason : String)
deriving Repr, Inhabited, DecidableEq

/-- The run of a program as it is seen from outside. -/
structure Spawn where
  words : List String
  /-- The folder in which it ran. -/
  directory : Path
  /-- Variables set for the program, if it is an agent. -/
  environment : Option (List (String × String)) := none
  /-- What was written to it. -/
  stdin : Option String := none
  /-- Whether it was stopped. -/
  killed : Bool := false
deriving Repr, Inhabited, DecidableEq

/-- What an agent answered. -/
structure AgentAnswer where
  output : String
  /-- Whether the output is free of halves of surrogate pairs. -/
  isWhole : Bool := true
  inputTokens : Int := 0
  outputTokens : Int := 0
  /-- The name of the model, or what the program gave as its name. -/
  model : Json
  sessionId : Json := .null
  rawOutput : String := ""
deriving Repr, Inhabited

namespace AgentAnswer

/-- All tokens of a call. -/
def totalTokens (answer : AgentAnswer) : Int :=
  answer.inputTokens + answer.outputTokens

/-- Whether a text made of the output has an encoding. -/
def encodes (answer : AgentAnswer) (text : String) : Bool :=
  answer.isWhole || !Text.holdsHalf text.toList

end AgentAnswer

namespace ProcessResult

/-- Whether the program was running when it was stopped. -/
def killed : ProcessResult → Bool
  | .timedOut => true
  | _ => false

/-- Whether the program ran at all. -/
def started : ProcessResult → Bool
  | .unstartable _ => false
  | _ => true

end ProcessResult

namespace AgentSetup

/-- How the run of an agent's program is seen to which a prompt is written.  A prompt without an
encoding is not written, and nobody waits for the end of that run. -/
def spawn (directory : Path) (words : List String) (prompt : Option String)
    (environment : List (String × String)) (result : ProcessResult) : Spawn :=
  { words, directory, environment := some environment
    stdin := if result.started then prompt else none
    killed := result.killed && prompt.isSome }

/-- The answer that the output of an agent's program holds. -/
def answerOf (setup : AgentSetup) (stdout : String) : Except OutputFault AgentAnswer := do
  let output ← AgentOutput.read setup.provider stdout
  .ok
    { output := output.text
      isWhole := output.isWhole
      inputTokens := output.inputTokens
      outputTokens := output.outputTokens
      model := if output.model.isPresent then output.model else .string setup.model
      sessionId := output.sessionId
      rawOutput := stdout }

/-- The answer that the run of an agent's program gives. -/
def answer (setup : AgentSetup) (words : List String) (result : ProcessResult) :
    Except Stop AgentAnswer :=
  let program := words.headD ""
  match result with
  | .unstartable reason =>
    .error (.failure (.invocation none ("Failed to start " ++ program ++ ": " ++ reason)))
  | .timedOut =>
    .error (.failure (.invocation none
      (program ++ " timed out after " ++ intText setup.timeout ++ " seconds")))
  | .exited status stdout stderr =>
    if status ≠ 0 then .error (.failure (.invocation (some status) stderr))
    else (setup.answerOf stdout).mapError fun fault => .breakdown (.output fault)

end AgentSetup

end PlanCycle
