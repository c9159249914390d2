/-
Module: PlanCycle.Cycle.World
Purpose: What a run on one change sees and changes: files, records, agents, programs, and the
trace of what it shows and does.
Main exports:
  AgentCall, Event, Console, Reply, ProcessScript, Processes, Agent, World, Run, Run.relay,
  Run.attempt, Run.session
-/
import PlanCycle.Agent.Conversation
import PlanCycle.Cycle.Outcome
import PlanCycle.Store.Session

namespace PlanCycle

/-!
A run is a function on the world.  When something stops it, the world stays as it was at that
moment: files that were written, records that were kept and events that were seen.  The
answers of agents and the ends of programs are part of the world, so a run is determined by
where it starts.
-/

/-- A question to an agent. -/
structure AgentCall where
  /-- The step in whose name it is asked. -/
  step : String
  role : Role
  prompt : String
  /-- Whether the prompt is free of halves of surrogate pairs. -/
  isWhole : Bool := true
  environment : List (String × String) := []
  resume : Resume := .none
deriving Repr, Inhabited, DecidableEq

/-- Something that a run shows or does. -/
inductive Event where
  | line (text : String)
  | panel (title text : String)
  | table (title : String) (columns : List String) (rows : List (List String))
  | warning (text : String)
  /-- An agent was asked, the files being these. -/
  | asked (call : AgentCall) (files : Folder)
  /-- An agent answered, the files being these then, and the answer was accepted or not. -/
  | answered (call : AgentCall) (answer : AgentAnswer) (accepted : Bool) (files : Folder)
  /-- A program was run and ended like this. -/
  | ran (spawn : Spawn) (result : ProcessResult)
deriving Repr, Inhabited

/-- Where lines are shown.  Texts from elsewhere may hold marks that it cannot make sense of, such
as a closing mark without an opening one. -/
structure Console where
  /-- Whether it makes sense of a text. -/
  takes : String → Bool := fun _ => true

/-- An answer that an agent has ready, or what it ends in instead, with what the agent does to the
files before. -/
structure Reply where
  edits : List FileEdit := []
  answer : Except Stop AgentAnswer
deriving Inhabited

/-- How the next run of a program goes: what it does to the files and how it ends. -/
structure ProcessScript where
  edits : List FileEdit := []
  result : ProcessResult
deriving Repr, Inhabited, DecidableEq

/-- The programs that can be run, in order. -/
structure Processes where
  scripts : List ProcessScript := []
  /-- Why none can be started once all of these were run. -/
  shortage : String := "no program is available"
deriving Repr, Inhabited, DecidableEq

/-- Who answers prompts. -/
inductive Agent where
  /-- Answers that are given in order, the last one again and again. -/
  | ready (first : Reply) (others : List Reply)
  /-- A program that is run for each prompt. -/
  | program (setup : AgentSetup)
deriving Inhabited

/-- The world around one change. -/
structure World where
  files : Folder := []
  store : Store := {}
  agents : Role → Agent := fun _ => default
  processes : Processes := {}
  /-- What was shown and done, oldest first. -/
  events : List Event := []

/-- A run on the world.  What stops it leaves the world as it is at that moment. -/
abbrev Run (α : Type) := World → Except Stop α × World

namespace Run

/-- A run that does nothing. -/
def done {α : Type} (value : α) : Run α := fun world => (.ok value, world)

/-- A run after another one, if nothing stops that one. -/
def andThen {α β : Type} (first : Run α) (next : α → Run β) : Run β := fun world =>
  match first world with
  | (.ok value, world) => next value world
  | (.error stop, world) => (.error stop, world)

instance : Monad Run where
  pure := done
  bind := andThen

/-- Stops. -/
def stop {α : Type} (reason : Stop) : Run α := fun world => (.error reason, world)

/-- Stops for a failure. -/
def fail {α : Type} (failure : Failure) : Run α := stop (.failure failure)

/-- A value, unless there is a reason to stop. -/
def ofExcept {α : Type} : Except Stop α → Run α
  | .ok value => done value
  | .error reason => stop reason

/-- A value that is read from files. -/
def ofFiles {α : Type} (value : Except FileFault α) : Run α :=
  ofExcept (value.mapError Stop.ofFile)

/-- A look at the world. -/
def look {α : Type} (view : World → α) : Run α := fun world => (.ok (view world), world)

/-- Adds an event to the trace. -/
def emit (event : Event) : Run Unit := fun world =>
  (.ok (), { world with events := world.events ++ [event] })

/-- Shows a line. -/
def say (text : String) : Run Unit := emit (.line text)

/-- Shows a line with a text from elsewhere, if the console takes it. -/
def relay (console : Console) (text : String) : Run Unit :=
  if console.takes text then say text else stop (.breakdown .markup)

/-- Gives a warning. -/
def warn (text : String) : Run Unit := emit (.warning text)

/-- Gives warnings in order. -/
def warnAll : List String → Run Unit
  | [] => done ()
  | text :: texts => do
    warn text
    warnAll texts

/-- Works on the store: all of it is kept or, if something stops it, nothing. -/
def session {α : Type} (work : Session α) : Run α := fun world =>
  let (result, store) := work.commit world.store
  (result, { world with store })

/-- Changes the files, unless that is impossible. -/
def changeFiles (change : Folder → Except FileFault Folder) : Run Unit := fun world =>
  match change world.files with
  | .ok files => (.ok (), { world with files })
  | .error fault => (.error (.ofFile fault), world)

/-- What an agent or a program does to the files. -/
def applyEdits (edits : List FileEdit) : Run Unit := fun world =>
  (.ok (), { world with files := world.files.edited edits })

/-- A run whose failure is an answer like any other.  A breakdown still stops it. -/
def attempt {α : Type} (run : Run α) : Run (Except Failure α) := fun world =>
  match run world with
  | (.ok value, world) => (.ok (.ok value), world)
  | (.error (.failure failure), world) => (.ok (.error failure), world)
  | (.error (.breakdown breakdown), world) => (.error (.breakdown breakdown), world)

/-- Lets a program run to its end. -/
def runProcess (spawn : ProcessResult → Spawn) : Run ProcessResult := fun world =>
  match world.processes.scripts with
  | [] =>
    let result := .unstartable world.processes.shortage
    (.ok result, { world with events := world.events ++ [.ran (spawn result) result] })
  | script :: scripts =>
    (.ok script.result,
      { world with
        files := world.files.edited script.edits
        processes := { world.processes with scripts }
        events := world.events ++ [.ran (spawn script.result) script.result] })

end Run

end PlanCycle
