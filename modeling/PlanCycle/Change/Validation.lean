/-
Module: PlanCycle.Change.Validation
Purpose: Checking the structure of a change's documents.
Main exports:
  Problem, Validation, ChangeFolder.validate
-/
import PlanCycle.Change.Documents
import PlanCycle.Failure

namespace PlanCycle

open Text

/-!
Structure alone is checked: that documents are there and not empty, that the proposal has a
heading, that specs and tasks refer to each other.
-/

/-- How much a problem matters. -/
inductive ProblemLevel where
  | error
  | warning
deriving Repr, Inhabited, DecidableEq

/-- The word for a level. -/
def ProblemLevel.word : ProblemLevel → String
  | .error => "error"
  | .warning => "warning"

/-- Something that is wrong with a document. -/
structure Problem where
  level : ProblemLevel
  artifact : String
  message : String
  /-- Whether the message has an encoding. -/
  isWhole : Bool := true
deriving Repr, Inhabited, DecidableEq

/-- A problem in one line. -/
def Problem.text (problem : Problem) : String :=
  problem.artifact ++ ": " ++ problem.message

/-- A problem that makes a change invalid. -/
def Problem.error (artifact : Artifact) (message : String) : Problem :=
  { level := .error, artifact := artifact.name, message }

/-- A problem of the task list, in which escapes may name halves of surrogate pairs or not. -/
def Problem.ofTasks (halves : Bool) (message : String) : Problem :=
  { Problem.error .tasks message with isWhole := !(halves && holdsHalf message.toList) }

/-- A list of problems. -/
structure Validation where
  problems : List Problem := []
deriving Repr, Inhabited, DecidableEq

namespace Validation

/-- The problems that make a change invalid. -/
def errors (validation : Validation) : List Problem :=
  validation.problems.filter (·.level = .error)

/-- The problems that do not. -/
def warnings (validation : Validation) : List Problem :=
  validation.problems.filter (·.level = .warning)

/-- Whether the change is valid. -/
def isOk (validation : Validation) : Bool :=
  validation.errors.isEmpty

/-- The failure of an invalid change. -/
def failure? (validation : Validation) : Option Failure :=
  if validation.isOk then none
  else some (.validation (validation.errors.map Problem.text) (validation.errors.all (·.isWhole)))

end Validation

/-- Whether a line begins with a number sign. -/
def hasHeading (document : String) : Bool :=
  (splitLines document.toList).any fun line => line.head? == some '#'

/-- What is wrong with the text of a proposal. -/
def proposalProblems (proposal : String) : List Problem :=
  if isBlankText proposal.toList then [.error .proposal "empty"]
  else if hasHeading proposal then []
  else [.error .proposal "no markdown heading"]

/-- What is wrong with the specs that the proposal names. -/
def specProblems (folder : ChangeFolder) : List String → Except FileFault (List Problem)
  | [] => .ok []
  | id :: ids => do
    let here ←
      if folder.has (.spec id) then do
        let text ← folder.read (.spec id)
        .ok (if isBlankText text.toList then [Problem.error (.spec id) "empty"] else [])
      else .ok [Problem.error (.spec id) "listed in proposal but missing"]
    .ok (here ++ (← specProblems folder ids))

/-- The name of a file without its last extension; a point that begins it starts none. -/
def stem (name : List Char) : List Char :=
  match (name.reverse.dropWhile (· != '.')).drop 1 with
  | [] => name
  | before => if name.getLast? = some '.' then name else before.reverse

/-- The warnings about files that look like specs and that the proposal does not name. -/
def straySpecs (folder : ChangeFolder) (ids : List String) : List Problem :=
  let names := (folder.files.names ["specs"]).filter fun name => ".md".toList.isSuffixOf name.toList
  let stems := names.map fun name => String.ofList (stem name.toList)
  (stems.filter (!ids.contains ·)).map fun id =>
    { level := .warning, artifact := (Artifact.spec id).name
      message := "not listed in proposal's affected specs" }

/-- The spec that a reference of a task means: what stands before a number sign, without the
name of the folder and the ending. -/
def referencedSpec (reference : String) : String :=
  let part := trim (reference.toList.takeWhile (· != '#'))
  String.ofList (dropEnding ".md".toList (dropBeginning Artifact.specStart.toList part))

/-- The tasks that refer to specs that the proposal does not name.  Escapes of the task list may
name halves of surrogate pairs or not. -/
def referenceProblems (ids : List String) (halves : Bool) (graph : TaskGraph) : List Problem :=
  graph.tasks.filterMap fun task =>
    task.specRef.bind fun reference =>
      let spec := referencedSpec reference
      if reference.isEmpty || spec.isEmpty || ids.contains spec then none
      else some (.ofTasks halves ("task " ++ task.id ++ " references unknown spec " ++
        if halves then quotedHalves reference else quoted reference))

/-- What is wrong with the task list, and how many of its blocks were skipped. -/
def taskProblems (ids : List String) (document : String) :
    Nat × Except Breakdown (List Problem) :=
  let reading := TaskGraph.read document
  let halves := Yaml.namesHalf document.toList
  (reading.skipped,
    match reading.graph with
    | .ok graph => .ok (referenceProblems ids halves graph)
    | .error (.tasks fault) => .ok [.ofTasks halves fault.message]
    | .error fault => .error (.taskList fault))

/-- A check of the structure: what it found, and how many blocks of the task list it
skipped. -/
structure Checkup where
  skipped : Nat := 0
  result : Except Breakdown Validation

namespace ChangeFolder

/-- What is wrong with the proposal and the specs, and the ids of the specs. -/
def planProblems (folder : ChangeFolder) : Except FileFault (List String × List Problem) := do
  let proposal ← folder.read .proposal
  let ids := affectedSpecs proposal
  let specs ← specProblems folder ids
  .ok (ids, proposalProblems proposal ++ specs ++ straySpecs folder ids)

/-- Checks the structure of the documents. -/
def checkup (folder : ChangeFolder) : Checkup :=
  if !folder.has .proposal then { result := .ok ⟨[.error .proposal "missing"]⟩ }
  else
    match folder.planProblems with
    | .error fault => { result := .error (.file fault) }
    | .ok (ids, problems) =>
      if !folder.has .tasks then { result := .ok ⟨problems ++ [.error .tasks "missing"]⟩ }
      else
        match folder.read .tasks with
        | .error fault => { result := .error (.file fault) }
        | .ok document =>
          let (skipped, found) := taskProblems ids document
          ⟨skipped, found.map fun found => ⟨problems ++ found⟩⟩

/-- What is wrong with the documents. -/
def validate (folder : ChangeFolder) : Except Breakdown Validation :=
  folder.checkup.result

end ChangeFolder

end PlanCycle
