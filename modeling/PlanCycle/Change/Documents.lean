/-
Module: PlanCycle.Change.Documents
Purpose: Reading and writing the documents of a change.
Main exports:
  ChangeFolder, ChangeFolder.pathText, ChangeFolder.has, ChangeFolder.read,
  ChangeFolder.specIds, ChangeFolder.required
-/
import PlanCycle.Change.AffectedSpecs
import PlanCycle.Settings.Path

namespace PlanCycle

/-- The folder of a change: where it stands and what is in it. -/
structure ChangeFolder where
  place : Path
  files : Folder
deriving Repr, Inhabited, DecidableEq

namespace ChangeFolder

/-- The path of a document as it is shown. -/
def pathText (folder : ChangeFolder) (artifact : Artifact) : String :=
  Path.text { folder.place with names := folder.place.names ++ artifact.file }

/-- Whether a document exists. -/
def has (folder : ChangeFolder) (artifact : Artifact) : Bool :=
  folder.files.isFile artifact.file

/-- The text of a document. -/
def read (folder : ChangeFolder) (artifact : Artifact) : Except FileFault String :=
  folder.files.read artifact.file

/-- The folder with a document of the given text. -/
def write (folder : ChangeFolder) (artifact : Artifact) (text : String) :
    Except FileFault ChangeFolder :=
  (folder.files.write artifact.file text).map fun files => { folder with files }

/-- The folder with a text added to a document. -/
def append (folder : ChangeFolder) (artifact : Artifact) (text : String) :
    Except FileFault ChangeFolder :=
  (folder.files.append artifact.file text).map fun files => { folder with files }

/-- The specs that the proposal names; none as long as there is no proposal. -/
def specIds (folder : ChangeFolder) : Except FileFault (List String) :=
  if folder.has .proposal then (folder.read .proposal).map affectedSpecs else .ok []

/-- The documents that a plan needs, in the order in which they are written. -/
def required (folder : ChangeFolder) : Except FileFault (List Artifact) :=
  folder.specIds.map fun ids => .proposal :: ids.map .spec ++ [.tasks]

end ChangeFolder

end PlanCycle
