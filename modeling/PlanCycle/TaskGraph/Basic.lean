/-
Module: PlanCycle.TaskGraph.Basic
Purpose: Tasks in layers.
Main exports:
  Task, Layer, TaskGraph, TaskFault, TaskFault.message
-/
namespace PlanCycle

/-- How far a task is. -/
inductive TaskStatus where
  | pending
  | inProgress
  | done
  | blocked
deriving Repr, Inhabited, DecidableEq

/-- The word for a status. -/
def TaskStatus.word : TaskStatus → String
  | .pending => "pending"
  | .inProgress => "in_progress"
  | .done => "done"
  | .blocked => "blocked"

/-- What a task does to its file. -/
inductive TaskAction where
  | create
  | modify
  | delete
deriving Repr, Inhabited, DecidableEq

/-- The word for an action. -/
def TaskAction.word : TaskAction → String
  | .create => "create"
  | .modify => "modify"
  | .delete => "delete"

/-- One task. -/
structure Task where
  id : String
  layer : Int
  title : String
  file : String
  action : TaskAction
  specRef : Option String := none
  status : TaskStatus := .pending
  dependsOn : List String := []
deriving Repr, Inhabited, DecidableEq

/-- Whether nothing is left to do. -/
def Task.isDone (task : Task) : Bool :=
  task.status = .done

/-- The tasks of one layer. -/
structure Layer where
  name : String
  order : Int
  tasks : List Task := []
deriving Repr, Inhabited, DecidableEq

/-- The layers of a plan, lowest first. -/
structure TaskGraph where
  layers : List Layer
deriving Repr, Inhabited, DecidableEq

/-- The layers that have names. -/
def Layer.names : List (String × Int) :=
  [("data", 1), ("logic", 2), ("integration", 3), ("testing", 4)]

/-- The name of a layer. -/
def Layer.nameOf (order : Int) : String :=
  match names.find? (·.2 == order) with
  | some entry => entry.1
  | none => "layer-" ++ toString order

namespace TaskGraph

/-- All tasks, layer by layer. -/
def tasks (graph : TaskGraph) : List Task :=
  graph.layers.flatMap (·.tasks)

/-- The first task with an id. -/
def get? (graph : TaskGraph) (id : String) : Option Task :=
  graph.tasks.find? (·.id == id)

/-- How many tasks are done, and how many there are. -/
def progress (graph : TaskGraph) : Nat × Nat :=
  (graph.tasks.countP (·.isDone), graph.tasks.length)

/-- Whether there are tasks and all of them are done. -/
def allDone (graph : TaskGraph) : Bool :=
  0 < graph.progress.2 && graph.progress.1 == graph.progress.2

end TaskGraph

/-- Why a task list is no task graph. -/
inductive TaskFault where
  | unreadableHead
  | headNoMapping
  | layersNoCollection
  | unknownLayer (name : String)
  | noTasks
  /-- An id that begins with no layer number, as a message shows it. -/
  | noLayerNumber (shown : String)
  /-- An action that is none, as a message shows it. -/
  | invalidAction (id shown : String)
  /-- A status that is none, as a message shows it. -/
  | invalidStatus (id shown : String)
  | noFile (id : String)
  | undeclaredLayer (id : String) (layer : Int)
  | duplicateId (id : String)
  | unknownDependency (id dependency : String)
  /-- A path from a task along its dependencies back to itself. -/
  | cycle (path : List String)
  | inversion (id : String) (layer : Int) (dependency : String) (dependencyLayer : Int)
deriving Repr, DecidableEq

/-- What stands in messages for the reason why a text is not YAML. -/
def yamlReason : String := "<yaml error>"

/-- The wording of a fault. -/
def TaskFault.message : TaskFault → String
  | .unreadableHead => "Invalid tasks.md frontmatter: " ++ yamlReason
  | .headNoMapping => "tasks.md frontmatter must be a mapping"
  | .layersNoCollection => "tasks.md 'layers' must be a mapping or a list"
  | .unknownLayer name => "Unknown layer in tasks.md frontmatter: " ++ name
  | .noTasks => "No tasks found in tasks.md"
  | .noLayerNumber shown => "Task id " ++ shown ++ " does not start with a layer number"
  | .invalidAction id shown => "Task " ++ id ++ " has invalid action " ++ shown
  | .invalidStatus id shown => "Task " ++ id ++ " has invalid status " ++ shown
  | .noFile id => "Task " ++ id ++ " has no file"
  | .undeclaredLayer id layer =>
    "Task " ++ id ++ " belongs to undeclared layer " ++ toString layer
  | .duplicateId id => "Duplicate task id: " ++ id
  | .unknownDependency id dependency =>
    "Task " ++ id ++ " depends on unknown task " ++ dependency
  | .cycle path => "Task dependency cycle: " ++ " -> ".intercalate path
  | .inversion id layer dependency dependencyLayer =>
    "Task " ++ id ++ " (layer " ++ toString layer ++ ") depends on " ++ dependency ++ " (layer " ++
      toString dependencyLayer ++ "); dependencies must be in a lower layer"

end PlanCycle
