/-
Module: PlanCycle.TaskGraph.Checking
Purpose: Which task graphs can be worked off: ids, dependencies and layers in order.
Main exports:
  TaskGraph.fault?
-/
import PlanCycle.TaskGraph.Basic

namespace PlanCycle.TaskGraph

/-- The first id that an earlier task has too. -/
def duplicateId? : (seen : List String) → List Task → Option String
  | _, [] => none
  | seen, task :: tasks =>
    if task.id ∈ seen then some task.id else duplicateId? (task.id :: seen) tasks

/-- The first dependency that no task answers to, with the task that has it. -/
def unknownDependency? (tasks : List Task) : Option (String × String) :=
  tasks.findSome? fun task =>
    (task.dependsOn.find? fun id => !tasks.any (·.id == id)).map (task.id, ·)

/-- The dependencies of the first task with an id. -/
def dependenciesOf (tasks : List Task) (id : String) : List String :=
  match tasks.find? (·.id == id) with
  | some task => task.dependsOn
  | none => []

mutual

/-- Follows the dependencies of one task.  The path that led to it is given, last
first, and the ids from which no cycle can be reached.  The answer is a cycle, or the
ids from which none can be reached now.  The fuel bounds the length of the path. -/
def visit (tasks : List Task) : (fuel : Nat) → (path visited : List String) → String →
    Except (List String) (List String)
  | fuel, path, visited, id =>
    if id ∈ path then
      .error (id :: ((path.takeWhile (· != id)).reverse ++ [id]))
    else if id ∈ visited then .ok visited
    else
      match fuel with
      | 0 => .ok visited
      | fuel + 1 =>
        match visitAll tasks fuel (id :: path) visited (dependenciesOf tasks id) with
        | .error cycle => .error cycle
        | .ok visited => .ok (id :: visited)
termination_by fuel _ _ _ => (fuel, 0)

/-- Follows the dependencies of several tasks, one after the other. -/
def visitAll (tasks : List Task) : (fuel : Nat) → (path visited ids : List String) →
    Except (List String) (List String)
  | _, _, visited, [] => .ok visited
  | fuel, path, visited, id :: ids =>
    match visit tasks fuel path visited id with
    | .error cycle => .error cycle
    | .ok visited => visitAll tasks fuel path visited ids
termination_by fuel _ _ ids => (fuel, ids.length + 1)

end

/-- The first cycle that is met when the dependencies of each task are followed. -/
def cycle? (tasks : List Task) : Option (List String) :=
  match visitAll tasks (tasks.length + 1) [] [] (tasks.map (·.id)) with
  | .error cycle => some cycle
  | .ok _ => none

/-- The first dependency on a task that is not in a lower layer. -/
def inversion? (tasks : List Task) : Option TaskFault :=
  tasks.findSome? fun task =>
    task.dependsOn.findSome? fun id =>
      match tasks.find? (·.id == id) with
      | some dependency =>
        if task.layer ≤ dependency.layer then
          some (.inversion task.id task.layer id dependency.layer)
        else none
      | none => none

/-- Why the graph cannot be worked off: an id occurs twice, a dependency is unknown, the
dependencies form a cycle, or one of them is not in a lower layer. -/
def fault? (graph : TaskGraph) : Option TaskFault :=
  let tasks := graph.tasks
  match duplicateId? [] tasks with
  | some id => some (.duplicateId id)
  | none =>
    match unknownDependency? tasks with
    | some (id, dependency) => some (.unknownDependency id dependency)
    | none =>
      match cycle? tasks with
      | some path => some (.cycle path)
      | none => inversion? tasks

end PlanCycle.TaskGraph
