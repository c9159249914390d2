/-
Module: PlanCycle.Proofs.Layering
Purpose: How tasks are put into layers: layers ascend, and each holds its tasks in the order in
  which they come.
Main exports:
  TaskList.insertOrder_ascending, TaskList.Arranged, TaskList.Arranged.insertTask,
  TaskList.graphOf_arranged, TaskList.orders_graphOf
-/
import PlanCycle.TaskGraph.Document

namespace PlanCycle.TaskList

/-- Whether numbers ascend strictly. -/
abbrev Ascending (orders : List Int) : Prop :=
  orders.Pairwise (· < ·)

/-! ### Numbers in ascending order -/

section
variable {order other : Int} {orders : List Int}

@[simp] theorem mem_insertOrder :
    other ∈ insertOrder order orders ↔ other = order ∨ other ∈ orders := by
  induction orders with
  | nil => simp [insertOrder]
  | cons first rest ih =>
      unfold insertOrder
      split
      · simp
      · split
        · rename_i same
          simp [same]
        · rw [List.mem_cons, ih, List.mem_cons]
          exact or_left_comm

theorem insertOrder_ascending (ascending : Ascending orders) :
    Ascending (insertOrder order orders) := by
  induction orders with
  | nil => simp [insertOrder]
  | cons first rest ih =>
      obtain ⟨least, others⟩ := List.pairwise_cons.mp ascending
      unfold insertOrder
      split
      · rename_i below
        refine List.pairwise_cons.mpr ⟨?_, ascending⟩
        intro other member
        rcases List.mem_cons.mp member with rfl | later
        · exact below
        · exact Int.lt_trans below (least other later)
      · split
        · exact ascending
        · refine List.pairwise_cons.mpr ⟨?_, ih others⟩
          intro other member
          rcases mem_insertOrder.mp member with rfl | later
          · omega
          · exact least other later

/-- A number that is there is not put in again. -/
theorem insertOrder_of_mem (ascending : Ascending orders) (member : order ∈ orders) :
    insertOrder order orders = orders := by
  induction orders with
  | nil => cases member
  | cons first rest ih =>
      obtain ⟨least, others⟩ := List.pairwise_cons.mp ascending
      unfold insertOrder
      rcases List.mem_cons.mp member with rfl | later
      · rw [if_neg (Int.lt_irrefl order), if_pos rfl]
      · have below := least order later
        rw [if_neg (by omega), if_neg (by omega), ih others later]

theorem foldr_insertOrder_ascending (numbers : List Int) :
    Ascending (numbers.foldr insertOrder []) := by
  induction numbers with
  | nil => exact .nil
  | cons number numbers ih => exact insertOrder_ascending ih

theorem mem_foldr_insertOrder {numbers : List Int} :
    order ∈ numbers.foldr insertOrder [] ↔ order ∈ numbers := by
  induction numbers with
  | nil => rfl
  | cons number numbers ih => rw [List.foldr_cons, mem_insertOrder, ih, List.mem_cons]

end

/-! ### Tasks in their layers -/

/-- Whether layers hold tasks as they should: the layers ascend, each holds the tasks of its number
in their order, and there is one for each task. -/
structure Arranged (tasks : List Task) (layers : List Layer) : Prop where
  ascending : Ascending (layers.map (·.order))
  gathered : ∀ layer ∈ layers, layer.tasks = tasks.filter (·.layer = layer.order)
  placed : ∀ task ∈ tasks, task.layer ∈ layers.map (·.order)

variable {task : Task} {tasks : List Task} {layers : List Layer}

theorem orders_insertTask (task : Task) (layers : List Layer) :
    (insertTask task layers).map (·.order) = insertOrder task.layer (layers.map (·.order)) := by
  induction layers with
  | nil => rfl
  | cons layer layers ih =>
      unfold insertTask
      rw [List.map_cons, insertOrder]
      split
      · rfl
      · split
        · rfl
        · rw [List.map_cons, ih]

/-- A layer after a task was put in: the task's own one, which may be new, or another one, which is
as it was. -/
theorem mem_insertTask {layer : Layer} (ascending : Ascending (layers.map (·.order)))
    (member : layer ∈ insertTask task layers) :
    (layer.order = task.layer ∧
        ((∃ old ∈ layers, old.order = task.layer ∧ layer.tasks = old.tasks ++ [task]) ∨
          (task.layer ∉ layers.map (·.order) ∧ layer.tasks = [task]))) ∨
      (layer.order ≠ task.layer ∧ layer ∈ layers) := by
  induction layers with
  | nil =>
      rw [insertTask, List.mem_singleton] at member
      rw [member]
      exact .inl ⟨rfl, .inr ⟨by simp, rfl⟩⟩
  | cons first rest ih =>
      obtain ⟨least, others⟩ := List.pairwise_cons.mp ascending
      have above (later : Layer) (among : later ∈ rest) : first.order < later.order :=
        least later.order (List.mem_map_of_mem among)
      unfold insertTask at member
      split at member
      · rename_i below
        rcases List.mem_cons.mp member with rfl | old
        · refine .inl ⟨rfl, .inr ⟨?_, rfl⟩⟩
          intro known
          obtain ⟨other, among, same⟩ := List.mem_map.mp known
          rcases List.mem_cons.mp among with rfl | later
          · omega
          · have := above other later
            omega
        · refine .inr ⟨?_, old⟩
          rcases List.mem_cons.mp old with rfl | later
          · omega
          · have := above layer later
            omega
      · split at member
        · rename_i same
          rcases List.mem_cons.mp member with rfl | later
          · exact .inl ⟨same.symm, .inl ⟨first, List.mem_cons_self, same.symm, rfl⟩⟩
          · have := above layer later
            exact .inr ⟨by omega, List.mem_cons_of_mem _ later⟩
        · rename_i beyond differs
          rcases List.mem_cons.mp member with rfl | later
          · exact .inr ⟨fun same => differs same.symm, List.mem_cons_self⟩
          · rcases ih others later with ⟨own, ⟨old, among, known, grown⟩ | ⟨new, alone⟩⟩ |
              ⟨other, among⟩
            · exact .inl ⟨own, .inl ⟨old, List.mem_cons_of_mem _ among, known, grown⟩⟩
            · exact .inl ⟨own, .inr ⟨by simpa using ⟨differs, by simpa using new⟩, alone⟩⟩
            · exact .inr ⟨other, List.mem_cons_of_mem _ among⟩

namespace Arranged

theorem insertTask (arranged : Arranged tasks layers) (task : Task) :
    Arranged (tasks ++ [task]) (insertTask task layers) where
  ascending := by
    rw [orders_insertTask]
    exact insertOrder_ascending arranged.ascending
  gathered layer member := by
    rw [List.filter_append]
    rcases mem_insertTask arranged.ascending member with
      ⟨own, ⟨old, among, known, grown⟩ | ⟨new, alone⟩⟩ | ⟨other, among⟩
    · rw [grown, arranged.gathered old among, known, own]
      simp
    · have none : tasks.filter (·.layer = layer.order) = [] := by
        refine List.filter_eq_nil_iff.mpr fun before earlier => ?_
        have placed := arranged.placed before earlier
        simp only [decide_eq_true_eq, own]
        exact fun same => new (same ▸ placed)
      rw [alone, none]
      simp [own]
    · rw [arranged.gathered layer among]
      simp [Ne.symm other]
  placed other member := by
    rw [orders_insertTask, mem_insertOrder]
    rcases List.mem_append.mp member with before | here
    · exact .inr (arranged.placed other before)
    · exact .inl (by rw [List.mem_singleton.mp here])

/-- Tasks that are put in one after the other stay in their order. -/
theorem foldl_insertTask (arranged : Arranged tasks layers) (more : List Task) :
    Arranged (tasks ++ more)
      (more.foldl (fun layers task => TaskList.insertTask task layers) layers) := by
  induction more generalizing tasks layers with
  | nil => simpa using arranged
  | cons task more ih => simpa using ih (arranged.insertTask task)

theorem mem_tasks (arranged : Arranged tasks layers) (member : task ∈ tasks) :
    task ∈ TaskGraph.tasks ⟨layers⟩ := by
  obtain ⟨layer, among, same⟩ := List.mem_map.mp (arranged.placed task member)
  refine List.mem_flatMap.mpr ⟨layer, among, ?_⟩
  rw [arranged.gathered layer among]
  exact List.mem_filter.mpr ⟨member, by simp [same]⟩

end Arranged

/-- Tasks of layers that are there make no new layer. -/
theorem orders_foldl_insertTask (ascending : Ascending (layers.map (·.order))) (more : List Task)
    (known : ∀ task ∈ more, task.layer ∈ layers.map (·.order)) :
    (more.foldl (fun layers task => insertTask task layers) layers).map (·.order) =
      layers.map (·.order) := by
  induction more generalizing layers with
  | nil => rfl
  | cons task more ih =>
      obtain ⟨here, others⟩ := List.forall_mem_cons.mp known
      have same : (insertTask task layers).map (·.order) = layers.map (·.order) := by
        rw [orders_insertTask, insertOrder_of_mem ascending here]
      rw [List.foldl_cons, ih (same ▸ ascending) (same ▸ others), same]

/-! ### The graph of a list of tasks -/

/-- Declared layers before tasks are put into them. -/
def emptyLayers (declared : List Int) : List Layer :=
  declared.map fun order => ⟨Layer.nameOf order, order, []⟩

@[simp] theorem orders_emptyLayers (declared : List Int) :
    (emptyLayers declared).map (·.order) = declared := by
  induction declared with
  | nil => rfl
  | cons order declared ih => exact congrArg (order :: ·) ih

variable {declared : List Int} {graph : TaskGraph}

/-- A graph is made of tasks of the declared layers, if any are declared, by putting them in one
after the other. -/
theorem graphOf_ok (made : graphOf declared tasks = .ok graph) :
    (declared ≠ [] → ∀ task ∈ tasks, task.layer ∈ declared) ∧
      graph.layers = tasks.foldl (fun layers task => insertTask task layers)
        (emptyLayers declared) := by
  unfold graphOf at made
  dsimp only at made
  split at made
  · cases made
  · rename_i all
    cases made
    refine ⟨fun some task member => ?_, rfl⟩
    simpa [some] using List.find?_eq_none.mp all task member

theorem graphOf_arranged (ascending : Ascending declared)
    (made : graphOf declared tasks = .ok graph) : Arranged tasks graph.layers := by
  have empty : Arranged [] (emptyLayers declared) := by
    refine ⟨?_, ?_, nofun⟩
    · rw [orders_emptyLayers]
      exact ascending
    · intro layer member
      obtain ⟨order, -, rfl⟩ := List.mem_map.mp member
      rfl
  rw [(graphOf_ok made).2]
  exact empty.foldl_insertTask tasks

/-- Declared layers are the layers of the graph. -/
theorem orders_graphOf (ascending : Ascending declared) (some : declared ≠ [])
    (made : graphOf declared tasks = .ok graph) : graph.layers.map (·.order) = declared := by
  obtain ⟨known, layers⟩ := graphOf_ok made
  rw [layers, orders_foldl_insertTask, orders_emptyLayers]
  · rw [orders_emptyLayers]
    exact ascending
  · rw [orders_emptyLayers]
    exact known some

end PlanCycle.TaskList
