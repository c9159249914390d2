/-
Module: PlanCycle.Change.Request
Purpose: What is asked of the documents of a change by their names.
Main exports:
  DocumentFault, DocumentRequest, DocumentAnswer, ChangeFolder.serve
-/
import PlanCycle.Change.Documents

namespace PlanCycle

/-- Why a request to a document is not served. -/
inductive DocumentFault where
  /-- The name stands for no document. -/
  | name (fault : ArtifactFault)
  | file (fault : FileFault)
deriving Repr, DecidableEq

/-- What may be asked of a document. -/
inductive DocumentRequest where
  | path
  /-- Whether the document exists. -/
  | has
  | read
  | write (text : String)
  | append (text : String)
deriving Repr, DecidableEq

/-- What a request is answered with. -/
inductive DocumentAnswer where
  | path (text : String)
  | has (there : Bool)
  | text (value : String)
deriving Repr, DecidableEq

namespace ChangeFolder

/-- What follows from a change of a document; one that cannot be made leaves the folder alone. -/
def afterChange (folder : ChangeFolder) (artifact : Artifact) :
    Except FileFault ChangeFolder → ChangeFolder × Except DocumentFault DocumentAnswer
  | .ok after => (after, .ok (.path (after.pathText artifact)))
  | .error fault => (folder, .error (.file fault))

/-- Serves a request to a document: the folder afterwards, and the answer. -/
def serveArtifact (folder : ChangeFolder) (artifact : Artifact) :
    DocumentRequest → ChangeFolder × Except DocumentFault DocumentAnswer
  | .path => (folder, .ok (.path (folder.pathText artifact)))
  | .has => (folder, .ok (.has (folder.has artifact)))
  | .read => (folder, ((folder.read artifact).map .text).mapError .file)
  | .write text => folder.afterChange artifact (folder.write artifact text)
  | .append text => folder.afterChange artifact (folder.append artifact text)

/-- Serves a request to the document with a name. -/
def serve (folder : ChangeFolder) (name : String) (request : DocumentRequest) :
    ChangeFolder × Except DocumentFault DocumentAnswer :=
  match Artifact.ofName name with
  | .ok artifact => folder.serveArtifact artifact request
  | .error fault => (folder, .error (.name fault))

end ChangeFolder

end PlanCycle
