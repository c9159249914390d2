/-
Module: PlanCycle.TaskGraph.Order
Purpose: The order in which tasks are worked off.
Main exports:
  TaskGraph.executionOrder, TaskGraph.pending
-/
import PlanCycle.TaskGraph.Basic

namespace PlanCycle.TaskGraph

/-- Whether everything that a task depends on has been done before. -/
def isReady (seen : List String) (task : Task) : Bool :=
  task.dependsOn.all (· ∈ seen)

/-- The tasks of one layer in rounds: each round takes all tasks that are ready, or the
first one if none is.  The ids taken before are given. -/
def layerOrder (seen : List String) (remaining : List Task) : List Task :=
  match remaining with
  | [] => []
  | first :: rest =>
    let ready := (first :: rest).filter (isReady seen)
    let waiting := (first :: rest).filter (!isReady seen ·)
    if waiting.length < (first :: rest).length then
      ready ++ layerOrder (ready.map (·.id) ++ seen) waiting
    else first :: layerOrder (first.id :: seen) rest
termination_by remaining.length
decreasing_by
  · assumption
  · exact Nat.lt_succ_self rest.length

/-- The tasks of several layers, layer by layer. -/
def orderAfter (seen : List String) : List Layer → List Task
  | [] => []
  | layer :: layers =>
    let ordered := layerOrder seen layer.tasks
    ordered ++ orderAfter (ordered.map (·.id) ++ seen) layers

/-- All tasks, layer by layer, each after what it depends on where that is possible. -/
def executionOrder (graph : TaskGraph) : List Task :=
  orderAfter [] graph.layers

/-- The tasks that are not done, in the order in which they are worked off. -/
def pending (graph : TaskGraph) : List Task :=
  graph.executionOrder.filter (!·.isDone)

end PlanCycle.TaskGraph
