/-
Module: PlanCycle.TaskGraph.Document
Purpose: Reading a task graph from its document.
Main exports:
  TaskListFault, TaskListReading, TaskGraph.read
-/
import PlanCycle.TaskGraph.Checking
import PlanCycle.Text.Heading
import PlanCycle.Yaml.Loading

namespace PlanCycle

open Text Yaml

/-!
The document may begin with a head between two lines of dashes, which declares layers.
Each task is described by one fenced YAML block; the last heading before the block is
its title.
-/

/-- Why a document is no task list. -/
inductive TaskListFault where
  /-- Something is wrong with the tasks. -/
  | tasks (fault : TaskFault)
  /-- A value cannot be represented. -/
  | value (fault : Yaml.Fault)
  /-- A layer number with a digit that has no place value, or with too many digits. -/
  | layerNumber
  /-- Dependencies that are no collection. -/
  | dependencies
deriving Repr, DecidableEq

/-- What reading a document gives: a graph or a fault, and how many blocks were skipped
because they are not YAML. -/
structure TaskListReading where
  skipped : Nat
  graph : Except TaskListFault TaskGraph

/-- The warning for a block that is not YAML. -/
def skippedBlockWarning : String :=
  "Skipping unparsable yaml block in tasks.md: " ++ yamlReason

namespace TaskList

/-! ### The head -/

/-- The rest of a text after each line feed in the blanks that it begins with, the last
line feed first. -/
def afterBlankLines (text : List Char) : List (List Char) :=
  match text with
  | [] => []
  | c :: rest =>
    if !isBlank c then []
    else if c = '\n' then afterBlankLines rest ++ [rest]
    else afterBlankLines rest

/-- What follows three characters that are all the given one. -/
def dropThree? (c : Char) : List Char → Option (List Char)
  | a :: b :: d :: rest => if a = c ∧ b = c ∧ d = c then some rest else none
  | _ => none

/-- What follows the line of dashes that ends the head, if the text begins with it. -/
def headEnd? (text : List Char) : Option (List Char) := do
  match text with
  | '\n' :: rest =>
    let rest ← dropThree? '-' rest
    if isBlankText rest then some [] else (afterBlankLines rest).head?
  | _ => none

/-- The text up to the end of the head, and what follows it. -/
def upToHeadEnd? : List Char → Option (List Char × List Char)
  | [] => none
  | c :: text =>
    match headEnd? (c :: text) with
    | some rest => some ([], rest)
    | none => (upToHeadEnd? text).map fun found => (c :: found.1, found.2)

/-- The head of a document and what follows it. -/
def head? (text : List Char) : Option (List Char × List Char) := do
  let rest ← dropThree? '-' (dropBlank text)
  (afterBlankLines rest).findSome? upToHeadEnd?

/-- The text of a value, if it can be written. -/
def textOf (value : Value) : Except TaskListFault String :=
  if value.isWritable then .ok value.asText else .error (.value .badValue)

/-- The number of a layer, by its name in any mix of letter cases. -/
def layerNumber? (name : String) : Option Int :=
  (Layer.names.find? fun entry => entry.1.toList == lowerCase name.toList).map (·.2)

/-- The numbers in ascending order, each once. -/
def insertOrder (order : Int) : List Int → List Int
  | [] => [order]
  | first :: rest =>
    if order < first then order :: first :: rest
    else if order = first then first :: rest
    else first :: insertOrder order rest

/-- A field of a mapping; null if it is not there. -/
def fieldOf (data : Value) (name : String) : Value :=
  (data.field? name).getD .null

/-- The name that an item of a list gives to a layer. -/
def layerName (item : Value) : Value :=
  match item with
  | .dict fields => fieldOf (.dict fields) "name"
  | item => item

/-- The names that a head gives to its layers. -/
def layerNames (head layers : Value) : Except TaskListFault (List Value) :=
  match layers with
  | .dict fields => .ok (fields.map (·.1))
  | .list items => .ok (items.map fun item => layerName (item.inside [.list items, head]))
  | _ => .error (.tasks .layersNoCollection)

/-- The number of the layer that a value names. -/
def orderOf (value : Value) : Except TaskListFault Int := do
  let name ← textOf value
  match layerNumber? name with
  | some order => .ok order
  | none => .error (.tasks (.unknownLayer name))

/-- The numbers of the layers that a head declares, in ascending order. -/
def declaredIn (head : Value) : Except TaskListFault (List Int) := do
  let head := if head.isPresent then head else .dict []
  match head with
  | .dict _ =>
    let layers := fieldOf head "layers"
    if !layers.isPresent then .ok []
    else
      let names ← layerNames head layers
      let orders ← names.mapM orderOf
      .ok (orders.foldr insertOrder [])
  | _ => .error (.tasks .headNoMapping)

/-- The numbers of the layers that a document declares, in ascending order; none if it
has no head. -/
def declaredLayers (text : List Char) : Except TaskListFault (List Int) :=
  match head? text with
  | none => .ok []
  | some (head, _) =>
    match Value.load head with
    | .ok value => declaredIn value
    | .error .malformed => .error (.tasks .unreadableHead)
    | .error fault => .error (.value fault)

/-! ### The blocks -/

/-- What follows the first line of a fenced YAML block that the text begins with. -/
def fence? (text : List Char) : Option (List Char) := do
  match ← dropThree? '\x60' text with
  | 'y' :: 'a' :: 'm' :: 'l' :: rest => (afterBlankLines rest).head?
  | 'y' :: 'm' :: 'l' :: rest => (afterBlankLines rest).head?
  | _ => none

/-- The text up to the next fence, and what follows that fence. -/
def upToFence? : List Char → Option (List Char × List Char)
  | [] => none
  | c :: text =>
    match dropThree? '\x60' (c :: text) with
    | some rest => some ([], rest)
    | none => (upToFence? text).map fun found => (c :: found.1, found.2)

/-- A fenced YAML block that the text begins with, and what follows it. -/
def block? (text : List Char) : Option (List Char × List Char) :=
  (fence? text).bind upToFence?

theorem length_dropThree? {c : Char} {text rest : List Char}
    (found : dropThree? c text = some rest) : rest.length < text.length := by
  unfold dropThree? at found
  split at found
  · split at found
    · cases found
      simp only [List.length_cons]
      omega
    · cases found
  · cases found

theorem length_afterBlankLines {text rest : List Char} (found : rest ∈ afterBlankLines text) :
    rest.length < text.length := by
  induction text with
  | nil => simp [afterBlankLines] at found
  | cons c text ih =>
    unfold afterBlankLines at found
    split at found
    · simp at found
    · split at found
      · rcases List.mem_append.1 found with found | found
        · exact Nat.lt_succ_of_lt (ih found)
        · simp only [List.mem_singleton] at found
          simp [found]
      · exact Nat.lt_succ_of_lt (ih found)

theorem length_fence? {text rest : List Char} (found : fence? text = some rest) :
    rest.length < text.length := by
  unfold fence? at found
  simp only [Option.bind_eq_bind, Option.bind_eq_some_iff] at found
  obtain ⟨after, dropped, found⟩ := found
  have first := length_dropThree? dropped
  split at found
  · have := length_afterBlankLines (List.mem_of_head? found)
    simp only [List.length_cons] at first
    omega
  · have := length_afterBlankLines (List.mem_of_head? found)
    simp only [List.length_cons] at first
    omega
  · cases found

theorem length_upToFence? {text body rest : List Char}
    (found : upToFence? text = some (body, rest)) : rest.length < text.length := by
  induction text generalizing body with
  | nil => cases found
  | cons c text ih =>
    unfold upToFence? at found
    split at found
    · rename_i after dropped
      cases found
      exact length_dropThree? dropped
    · obtain ⟨⟨inner, after⟩, inside, same⟩ := Option.map_eq_some_iff.1 found
      cases same
      exact Nat.lt_succ_of_lt (ih inside)

theorem length_block? {text body rest : List Char} (found : block? text = some (body, rest)) :
    rest.length < text.length := by
  obtain ⟨after, fenced, closed⟩ := Option.bind_eq_some_iff.1 found
  exact Nat.lt_trans (length_upToFence? closed) (length_fence? fenced)

/-- The YAML blocks of a text, each with all text before it.  The text that was left
behind is given, last character first. -/
def blocksAfter (before text : List Char) : List (List Char × List Char) :=
  match _found : block? text with
  | some (body, rest) =>
    let consumed := (text.take (text.length - rest.length)).reverse
    (before.reverse, body) :: blocksAfter (consumed ++ before) rest
  | none =>
    match text with
    | [] => []
    | c :: text => blocksAfter (c :: before) text
termination_by text.length
decreasing_by
  · exact length_block? _found
  · simp

/-- The title above a block: the last heading of the text before it. -/
def titleAbove? (before : List Char) : Option String :=
  (sections .any before).parts.getLast?.map fun part => String.ofList part.1

/-! ### One task -/

/-- The words for actions, in small letters. -/
def actionWords : List (String × TaskAction) :=
  [("create", .create), ("modify", .modify), ("delete", .delete)]

/-- The words for statuses, in small letters. -/
def statusWords : List (String × TaskStatus) :=
  [("pending", .pending), ("todo", .pending), ("in_progress", .inProgress),
    ("inprogress", .inProgress), ("done", .done), ("complete", .done), ("completed", .done),
    ("blocked", .blocked)]

/-- A value as a word in small letters, without blanks around it. -/
def wordOf (value : Value) : Except TaskListFault (List Char) :=
  (textOf value).map fun text => lowerCase (trim text.toList)

/-- The part of an id before its first dot. -/
def layerPart (id : String) : List Char :=
  id.toList.takeWhile (· != '.')

/-- The title without the id at its start; the id if nothing is left. -/
def titleWithout (id title : String) : String :=
  let chars := title.toList
  let rest := if id.toList.isPrefixOf chars then chars.drop id.length else chars
  let rest := trim rest
  if rest.isEmpty then id else String.ofList rest

/-- The ids that a task depends on.  A single text counts as one id. -/
def dependenciesOf (data : Value) : Except TaskListFault (List String) :=
  let value := fieldOf data "depends_on"
  if !value.isPresent then .ok []
  else
    match value with
    | .text id | .halved id => .ok [id]
    | value =>
      match value.parts? with
      | some parts => (parts.map (·.inside [value, data])).mapM textOf
      | none => .error .dependencies

/-- What a task does to its file. -/
def actionOf (data : Value) (id : String) : Except TaskListFault TaskAction := do
  let word ← wordOf ((data.field? "action").getD (.text ""))
  match actionWords.find? (·.1.toList == word) with
  | some entry => .ok entry.2
  | none => .error (.tasks (.invalidAction id (fieldOf data "action").shown))

/-- How far a task is; it is pending if nothing is said. -/
def statusOf (data : Value) (id : String) : Except TaskListFault TaskStatus := do
  let value := fieldOf data "status"
  let word ← wordOf (if value.isPresent then value else .text "pending")
  let word := word.map fun c => if c = '-' then '_' else c
  match statusWords.find? (·.1.toList == word) with
  | some entry => .ok entry.2
  | none => .error (.tasks (.invalidStatus id value.shown))

/-- The spec that a task refers to, if any. -/
def specRefOf (data : Value) : Except TaskListFault (Option String) :=
  let value := fieldOf data "spec_ref"
  if value.isPresent then (textOf value).map some else .ok none

/-- The task that a block describes, under the given title. -/
def taskOf (data : Value) (id title : String) : Except TaskListFault Task := do
  let number := layerPart id
  if number.isEmpty || !number.all isDigit then
    .error (.tasks (.noLayerNumber (fieldOf data "id").quotedText))
  else
    let action ← actionOf data id
    let status ← statusOf data id
    let file := fieldOf data "file"
    if !file.isPresent then .error (.tasks (.noFile id))
    else
      match Number.readInt? 10 number with
      | none => .error .layerNumber
      | some layer =>
        let file ← textOf file
        let specRef ← specRefOf data
        let dependsOn ← dependenciesOf data
        .ok { id, layer, title := titleWithout id title, file, action, specRef, status, dependsOn }

/-- What one block contributes. -/
inductive Entry where
  | task (task : Task)
  /-- The block is not YAML. -/
  | unreadable
  /-- The block does not describe a task. -/
  | other

/-- What one block contributes, under the text before it. -/
def entryOf (before body : List Char) : Except TaskListFault Entry :=
  match Value.load body with
  | .error .malformed => .ok .unreadable
  | .error fault => .error (.value fault)
  | .ok data =>
    match data.field? "id" with
    | none => .ok .other
    | some id => do
      let id ← textOf id
      .ok (.task (← taskOf data id ((titleAbove? before).getD id)))

/-- The tasks of a list of blocks, and the number of blocks that are not YAML up to the
first fault. -/
def tasksOf : List (List Char × List Char) → Nat × Except TaskListFault (List Task)
  | [] => (0, .ok [])
  | (before, body) :: blocks =>
    match entryOf before body with
    | .error fault => (0, .error fault)
    | .ok entry =>
      let (skipped, tasks) := tasksOf blocks
      match entry with
      | .task task => (skipped, tasks.map (task :: ·))
      | .unreadable => (skipped + 1, tasks)
      | .other => (skipped, tasks)

/-! ### The graph -/

/-- Puts tasks into the layer of each; without declared layers, a layer is made where
one is missing. -/
def insertTask (task : Task) : List Layer → List Layer
  | [] => [⟨Layer.nameOf task.layer, task.layer, [task]⟩]
  | layer :: layers =>
    if task.layer < layer.order then
      ⟨Layer.nameOf task.layer, task.layer, [task]⟩ :: layer :: layers
    else if task.layer = layer.order then { layer with tasks := layer.tasks ++ [task] } :: layers
    else layer :: insertTask task layers

/-- The graph of tasks with the declared layers, unless a task is in a layer that is not
among them. -/
def graphOf (declared : List Int) (tasks : List Task) : Except TaskFault TaskGraph :=
  let undeclared := tasks.find? fun task => !declared.isEmpty && !declared.contains task.layer
  match undeclared with
  | some task => .error (.undeclaredLayer task.id task.layer)
  | none =>
    let empty := declared.map fun order => (⟨Layer.nameOf order, order, []⟩ : Layer)
    .ok ⟨tasks.foldl (fun layers task => insertTask task layers) empty⟩

/-- The graph of tasks, if it can be worked off. -/
def checkedGraph (declared : List Int) (tasks : List Task) : Except TaskFault TaskGraph := do
  if tasks.isEmpty then .error .noTasks
  else
    let graph ← graphOf declared tasks
    match graph.fault? with
    | some fault => .error fault
    | none => .ok graph

end TaskList

open TaskList in
/-- Reads the task graph that a document describes. -/
def TaskGraph.read (document : String) : TaskListReading :=
  let text := document.toList
  match declaredLayers text with
  | .error fault => ⟨0, .error fault⟩
  | .ok declared =>
    let body := match head? text with
      | some (_, rest) => rest
      | none => text
    let (skipped, tasks) := tasksOf (blocksAfter [] body)
    ⟨skipped, tasks.bind fun tasks => (checkedGraph declared tasks).mapError .tasks⟩

end PlanCycle
