/-
Module: PlanCycle.Change.Artifact
Purpose: The documents of a change, their names and their files.
Main exports:
  Artifact, Artifact.name, Artifact.ofName, Artifact.file, ArtifactFault, isSpecId
-/
import PlanCycle.Change.Folder
import PlanCycle.Text.Line
import PlanCycle.Text.Quoted

namespace PlanCycle

open Text

/-- A document of a change. -/
inductive Artifact where
  | proposal
  | spec (id : String)
  | tasks
  /-- The critiques of the plan, in order. -/
  | challenge
deriving Repr, Inhabited, DecidableEq

/-- Why a name stands for no document. -/
inductive ArtifactFault where
  | invalidSpecId (id : String)
  | unknown (name : String)
deriving Repr, DecidableEq

/-- The wording of a fault. -/
def ArtifactFault.message : ArtifactFault → String
  | .invalidSpecId id => "Invalid spec id: " ++ quoted id
  | .unknown name => "Unknown artifact: " ++ quoted name

/-- An ASCII letter or digit. -/
def isIdStart (c : Char) : Bool :=
  c.isAlphanum

/-- The characters of a spec id after its first. -/
def isIdPart (c : Char) : Bool :=
  c.isAlphanum || c == '_' || c == '.' || c == '-'

/-- Whether a text is a spec id: a letter or digit, then letters, digits, underscores, points
and dashes.  A line feed may end it. -/
def isSpecId (id : List Char) : Bool :=
  match dropLastNewline id with
  | c :: rest => isIdStart c && rest.all isIdPart
  | [] => false

namespace Artifact

/-- What the names of specs begin with. -/
def specStart : String := "specs/"

/-- The name of a document. -/
def name : Artifact → String
  | .proposal => "proposal"
  | .spec id => specStart ++ id
  | .tasks => "tasks"
  | .challenge => "challenge"

/-- The rest of a text after a beginning. -/
def afterStart? : List Char → List Char → Option (List Char)
  | [], text => some text
  | _ :: _, [] => none
  | c :: start, d :: text => if c = d then afterStart? start text else none

/-- The document with a name. -/
def ofName (name : String) : Except ArtifactFault Artifact :=
  if name = "proposal" then .ok .proposal
  else if name = "tasks" then .ok .tasks
  else if name = "challenge" then .ok .challenge
  else
    match afterStart? specStart.toList name.toList with
    | some id =>
      if isSpecId id then .ok (.spec (String.ofList id))
      else .error (.invalidSpecId (String.ofList id))
    | none => .error (.unknown name)

/-- Where the file of a document stands in the folder of its change. -/
def file : Artifact → FilePath
  | .proposal => ["proposal.md"]
  | .spec id => ["specs", id ++ ".md"]
  | .tasks => ["tasks.md"]
  | .challenge => ["CHALLENGE.md"]

end Artifact

end PlanCycle
