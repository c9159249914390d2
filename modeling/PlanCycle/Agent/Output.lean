/-
Module: PlanCycle.Agent.Output
Purpose: Reading what an agent program wrote.
Main exports:
  AgentOutput, OutputFault, events, AgentOutput.read
-/
import PlanCycle.Agent.Basic
import PlanCycle.Json.Reading
import PlanCycle.Text.Blank
import PlanCycle.Text.Line

namespace PlanCycle

open Text

/-!
Agent programs write one JSON object a line; other lines between them are ignored.
Output without any object is plain text.
-/

/-- What an agent said and used. -/
structure AgentOutput where
  text : String := ""
  /-- Whether the text is free of halves of surrogate pairs. -/
  isWhole : Bool := true
  sessionId : Json := .null
  model : Json := .null
  inputTokens : Int := 0
  outputTokens : Int := 0
  events : List Json := []
deriving Repr, Inhabited

/-- Why output cannot be read. -/
inductive OutputFault where
  /-- A whole number with more digits than are accepted. -/
  | longNumeral
  /-- A count that is not a number. -/
  | notANumber
  /-- An infinite count. -/
  | infinite
deriving Repr, DecidableEq

namespace AgentOutput

/-- The object that a line holds; nothing if the line holds none. -/
def lineEvent (line : List Char) : Except OutputFault (Option Json) :=
  let line := trim line
  if line.head? ≠ some '\x7b' then .ok none
  else
    match Json.parse line with
    | .ok (.object fields) => .ok (some (.object fields))
    | .ok _ => .ok none
    | .error .malformed => .ok none
    | .error .longNumeral => .error .longNumeral

/-- The objects of lines, in order. -/
def lineEvents : List (List Char) → Except OutputFault (List Json)
  | [] => .ok []
  | line :: lines => do
    let event ← lineEvent line
    let events ← lineEvents lines
    .ok (event.toList ++ events)

/-- The objects that a text holds, one a line. -/
def eventsOf (text : List Char) : Except OutputFault (List Json) :=
  lineEvents (splitLines text)

/-- A field of an object, null if it is missing. -/
def field (name : String) (value : Json) : Json :=
  (value.field? name).getD .null

/-- Whether a field holds the given text. -/
def fieldIs (name text : String) (value : Json) : Bool :=
  match field name value with
  | .string found => found == text
  | _ => false

/-- A count, if the value is a number; fractions are cut off. -/
def count? (value : Json) : Except OutputFault (Option Int) :=
  match value with
  | .int n => .ok (some n)
  | .float .nan => .error .notANumber
  | .float (.infinite _) => .error .infinite
  | .float x => .ok x.truncate?
  | _ => .ok none

/-- The first of two fields that holds a number, else zero. -/
def countOf (payload : Json) (name other : String) : Except OutputFault Int := do
  match ← count? (field name payload) with
  | some n => .ok n
  | none => return (← count? (field other payload)).getD 0

/-- The numbers of tokens that an object reports. -/
def tokens (payload : Json) : Except OutputFault (Int × Int) :=
  match payload with
  | .object _ => do
    let input ← countOf payload "input_tokens" "prompt_tokens"
    let output ← countOf payload "output_tokens" "completion_tokens"
    .ok (input, output)
  | _ => .ok (0, 0)

/-- The texts that a message is made of. -/
def contentTexts : Json → List Json
  | .array parts => parts.filterMap fun part => part.field? "text"
  | content => [content]

/-- The text of a message, which may be given in parts. -/
def contentText (content : Json) : String :=
  String.join ((contentTexts content).filterMap Json.text?)

/-- The first of two values if it says something, else the second. -/
def orElse (value other : Json) : Json :=
  if value.isPresent then value else other

/-- Whether a message comes from the agent itself; one without a role does. -/
def isOwnMessage (event : Json) : Bool :=
  match event.field? "role" with
  | none => true
  | some role => fieldIs "role" "assistant" (.object [("role", role)])

/-- Takes one event of a gemini stream into account. -/
def stepGemini (output : AgentOutput) (event : Json) : Except OutputFault AgentOutput :=
  if fieldIs "type" "init" event then
    .ok
      { output with
        sessionId := orElse (field "session_id" event) output.sessionId
        model := orElse (field "model" event) output.model }
  else if fieldIs "type" "message" event && isOwnMessage event then
    let content := field "content" event
    .ok
      { output with
        text := output.text ++ contentText content
        isWhole := output.isWhole && (contentTexts content).all Json.isWhole }
  else if fieldIs "type" "result" event then do
    let (input, out) ← tokens (field "stats" event)
    .ok { output with inputTokens := input, outputTokens := out }
  else .ok output

/-- The text of a codex event, if it is a finished message of the agent. -/
def codexMessage? (event : Json) : Option Json :=
  if fieldIs "type" "item.completed" event then
    let item := field "item" event
    if fieldIs "type" "agent_message" item then some (field "text" item) else none
  else none

/-- Takes one event of a codex stream into account, its messages apart. -/
def stepCodex (output : AgentOutput) (event : Json) : Except OutputFault AgentOutput :=
  if fieldIs "type" "thread.started" event then
    .ok { output with sessionId := orElse (field "thread_id" event) output.sessionId }
  else if fieldIs "type" "turn.completed" event then do
    let (input, out) ← tokens (field "usage" event)
    .ok
      { output with
        inputTokens := output.inputTokens + input
        outputTokens := output.outputTokens + out }
  else .ok output

/-- Takes one event of a claude stream into account. -/
def stepClaude (output : AgentOutput) (event : Json) : Except OutputFault AgentOutput :=
  if fieldIs "type" "result" event then do
    let (input, out) ← tokens (field "usage" event)
    let result := field "result" event
    .ok
      { output with
        text := result.text?.getD ""
        isWhole := result.isWhole
        sessionId := orElse (field "session_id" event) output.sessionId
        inputTokens := input, outputTokens := out }
  else .ok output

/-- What events say, by the rules of a provider. -/
def ofEvents (provider : Provider) (events : List Json) : Except OutputFault AgentOutput :=
  let start : AgentOutput := { events }
  match provider with
  | .gemini => events.foldlM stepGemini start
  | .codex => do
    let output ← events.foldlM stepCodex start
    let messages := events.filterMap codexMessage?
    .ok
      { output with
        text := "\n\n".intercalate (messages.filterMap Json.text?)
        isWhole := messages.all Json.isWhole }
  | .claude => events.foldlM stepClaude start

/-- Reads the output of an agent program. -/
def read (provider : Provider) (stdout : String) : Except OutputFault AgentOutput := do
  match ← eventsOf stdout.toList with
  | [] => .ok { text := stdout }
  | events => ofEvents provider events

end AgentOutput

end PlanCycle
