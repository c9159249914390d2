/-
Module: PlanCycle.Failure
Purpose: What can go wrong: failures that are reported, and breakdowns that are not expected.
Main exports:
  FailureKind, Failure, Failure.kind, Failure.message, Breakdown, Stop
-/
import PlanCycle.Agent.Output
import PlanCycle.Agent.Setup
import PlanCycle.Change.Folder
import PlanCycle.Change.Phase
import PlanCycle.TaskGraph.Document

namespace PlanCycle

open Number Text

/-- What a failure is about. -/
inductive FailureKind where
  | transient
  | parse
  | session
  | consistency
  | validation
  | state
deriving Repr, Inhabited, DecidableEq

/-- The word for a kind of failure. -/
def FailureKind.word : FailureKind → String
  | .transient => "transient"
  | .parse => "parse"
  | .session => "session"
  | .consistency => "consistency"
  | .validation => "validation"
  | .state => "state"

/-- Why the conversation to go on with is not found. -/
inductive SessionFailure where
  /-- No conversation is on record. -/
  | unrecorded
  /-- The program that lists conversations did not start. -/
  | unstartable (program reason : String)
  | timedOut (seconds : Int)
  | exited (status : Int) (detail : String)
  | noHeader
  | noEntries
  | notListed (id : String)
deriving Repr, DecidableEq

/-- The wording of a failure to find a conversation. -/
def SessionFailure.message : SessionFailure → String
  | .unrecorded => "No generator session recorded for this change"
  | .unstartable program reason => "Failed to run " ++ program ++ ": " ++ reason
  | .timedOut seconds => "Session listing timed out after " ++ intText seconds ++ " seconds"
  | .exited status detail =>
    "Session listing exited with status " ++ intText status ++ ": " ++ detail
  | .noHeader => "Session listing has no 'Available sessions' header"
  | .noEntries => "Session listing has no [session-id] entries"
  | .notListed id => "Session " ++ id ++ " not found in session listing"

/-- A failure that is reported with its kind and its wording. -/
inductive Failure where
  | changeNotFound (id : String)
  | changeExists (id : String)
  | invalidChangeId (id : String)
  | notRejected (id : String) (phase : Phase)
  | unknownProvider (role : Role) (name : String)
  | indexedResume (provider : Provider)
  /-- The generator cannot go on with a conversation of a given index. -/
  | unresumableGenerator (provider : Provider)
  | transition (current target : Phase)
  /-- An unknown verdict cannot be applied. -/
  | unknownVerdict
  /-- A critique without a verdict. -/
  | noVerdict
  /-- A critique that wants changes and names no issue. -/
  | noIssues (verdict : Verdict)
  /-- An agent's program failed, with its status if it ended by itself. -/
  | invocation (status : Option Int) (stderr : String)
  /-- An agent answered nothing that can be used. -/
  | emptyAnswer (step : String)
  | retriesExhausted (step : String) (attempts : Nat) (last : Failure)
  | session (failure : SessionFailure)
  /-- Problems of the documents, and whether the wording of each has an encoding. -/
  | validation (problems : List String) (isWhole : Bool)
  | tasks (fault : TaskFault)
deriving Repr, DecidableEq

namespace Failure

/-- What a failure is about. -/
def kind : Failure → FailureKind
  | .unknownVerdict | .noVerdict => .parse
  | .noIssues _ => .consistency
  | .invocation .. | .emptyAnswer _ | .retriesExhausted .. => .transient
  | .session _ => .session
  | .validation .. | .tasks _ => .validation
  | _ => .state

/-- The last line of what a program wrote about its failure. -/
def lastLine (stderr : String) : String :=
  match (splitLines (trim stderr.toList)).getLast? with
  | some line => String.ofList line
  | none => "no stderr output"

/-- The status with which a program ended. -/
def statusText : Option Int → String
  | some status => intText status
  | none => "None"

/-- The wording of a failure. -/
def message : Failure → String
  | .changeNotFound id => "Change not found: " ++ id
  | .changeExists id => "Change already exists: " ++ id
  | .invalidChangeId id =>
    "Invalid change id " ++ quoted id ++ ": use lowercase letters, digits and dashes"
  | .notRejected id phase =>
    "Only rejected changes can be reopened; " ++ id ++ " is " ++ phase.word
  | .unknownProvider role name => "Unknown provider for role " ++ role.name ++ ": " ++ name
  | .indexedResume provider => provider.name ++ " cannot resume a session by index"
  | .unresumableGenerator provider =>
    "Generator provider " ++ provider.name ++
      " cannot resume a session by index; set ROLE_GENERATOR_PROVIDER=gemini"
  | .transition current target => "Cannot move from " ++ current.word ++ " to " ++ target.word
  | .unknownVerdict => "Cannot apply an unknown verdict"
  | .noVerdict => "Critique output contains no review verdict"
  | .noIssues verdict => "Critic returned " ++ verdict.word ++ " without listing any issues"
  | .invocation status stderr =>
    "Agent exited with status " ++ statusText status ++ ": " ++ lastLine stderr
  | .emptyAnswer step => step ++ " returned no usable output"
  | .retriesExhausted step attempts last =>
    step ++ " failed after " ++ toString attempts ++ " attempts: " ++ last.message
  | .session failure => failure.message
  | .validation problems _ =>
    "Structural validation failed:\n" ++ joinLines (problems.map ("  - " ++ ·))
  | .tasks fault => fault.message

/-- Whether the wording of a failure has an encoding. -/
def isWhole : Failure → Bool
  | .validation _ isWhole => isWhole
  | .retriesExhausted _ _ last => last.isWhole
  | .tasks fault => !holdsHalf fault.message.toList
  | _ => true

end Failure

/-- Something that no part of a workflow deals with. -/
inductive Breakdown where
  | file (fault : FileFault)
  /-- A task list with a value that cannot be read. -/
  | taskList (fault : TaskListFault)
  | output (fault : OutputFault)
  /-- A configured command leaves a quote open or ends in a backslash. -/
  | unfinishedCommand
  /-- A time limit in the environment that is no whole number. -/
  | roleTimeout
  /-- A prompt for a document that nobody is asked to write. -/
  | noRules
  /-- The listed index of a conversation that is not positive. -/
  | resumeIndex (index : Int)
  /-- A listed index with too many digits. -/
  | longIndex
  /-- A policy that allows no attempt at all. -/
  | noAttempt
  /-- A number that does not fit into a record. -/
  | overflow
  /-- A value that is no text where a record needs one. -/
  | unstorable
  /-- A text with halves of surrogate pairs where an encoding is needed. -/
  | unencodable
  /-- A text with marks that the console cannot make sense of. -/
  | markup
  /-- An error of another kind, by its name, that an agent ends in. -/
  | foreign (error : String)
  /-- A model whose name is no text. -/
  | namelessModel
  | duplicateChange
deriving Repr, DecidableEq

/-- Why something stopped. -/
inductive Stop where
  | failure (failure : Failure)
  | breakdown (breakdown : Breakdown)
deriving Repr, DecidableEq

namespace Stop

/-- What stops reading or writing a file. -/
def ofFile (fault : FileFault) : Stop := .breakdown (.file fault)

/-- What stops reading a task list. -/
def ofTaskList : TaskListFault → Stop
  | .tasks fault => .failure (.tasks fault)
  | fault => .breakdown (.taskList fault)

/-- What stops finding a program for a role. -/
def ofRole : RoleFault → Stop
  | .timeout => .breakdown .roleTimeout
  | .unknownProvider role name => .failure (.unknownProvider role name)

/-- What stops making a command line. -/
def ofCommand : CommandFault → Stop
  | .unfinishedCommand => .breakdown .unfinishedCommand
  | .indexedResume provider => .failure (.indexedResume provider)

end Stop

end PlanCycle
