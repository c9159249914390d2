/-
Module: PlanCycle.Proofs.WorkingOrder
Purpose: The order in which tasks are worked off holds each task once, layer by layer, and puts each
  task after what it depends on where that is possible at all.
Main exports:
  TaskGraph.InOrder, TaskGraph.DependsBackward, TaskGraph.layerOrder_perm, TaskGraph.exists_ready,
  TaskGraph.orderAfter_inOrder, TaskGraph.executionOrder_works_off
-/
import Mathlib.Data.Set.Finite.List
import Mathlib.Order.WellFounded
import PlanCycle.Proofs.Dependencies
import PlanCycle.TaskGraph.Order

namespace PlanCycle.TaskGraph

open Relation

/-! ### Every task once -/

/-- A layer's order is a rearrangement of its tasks. -/
theorem layerOrder_perm (seen : List String) (remaining : List Task) :
    (layerOrder seen remaining).Perm remaining := by
  -- The induction is on the rounds: each takes at least one task, so they come to an end.
  fun_induction layerOrder seen remaining with
  | case1 seen => exact .refl _
  | case2 seen first rest ready waiting fewer ih =>
      exact (ih.append_left ready).trans (List.filter_append_perm (isReady seen) (first :: rest))
  | case3 seen first rest waiting none ih => exact ih.cons first

/-- The order of several layers consists of one part for each, in their order. -/
theorem orderAfter_parts (seen : List String) (layers : List Layer) :
    ∃ parts : List (List Task), orderAfter seen layers = parts.flatten ∧
      List.Forall₂ (fun part layer => part.Perm layer.tasks) parts layers := by
  induction layers generalizing seen with
  | nil => exact ⟨[], rfl, .nil⟩
  | cons layer layers ih =>
      let ordered := layerOrder seen layer.tasks
      obtain ⟨parts, same, others⟩ := ih (ordered.map (·.id) ++ seen)
      refine ⟨ordered :: parts, ?_, .cons (layerOrder_perm seen layer.tasks) others⟩
      rw [orderAfter, same]
      rfl

theorem orderAfter_perm (seen : List String) (layers : List Layer) :
    (orderAfter seen layers).Perm (layers.flatMap (·.tasks)) := by
  induction layers generalizing seen with
  | nil => exact .refl _
  | cons layer layers ih =>
      rw [orderAfter, List.flatMap_cons]
      exact (layerOrder_perm seen layer.tasks).append (ih _)

/-! ### Each task after what it depends on -/

/-- Whether each task of a list finds what it depends on among ids seen before or the tasks before
it. -/
def InOrder (seen : List String) : List Task → Prop
  | [] => True
  | task :: later => (∀ id ∈ task.dependsOn, id ∈ seen) ∧ InOrder (task.id :: seen) later

namespace InOrder

variable {seen more : List String} {first second : List Task}

theorem mono (order : InOrder seen first) (among : ∀ id ∈ seen, id ∈ more) :
    InOrder more first := by
  induction first generalizing seen more with
  | nil => trivial
  | cons task later ih =>
      obtain ⟨here, after⟩ := order
      refine ⟨fun id named => among id (here id named), ih after ?_⟩
      intro id member
      rcases List.mem_cons.mp member with rfl | before
      · exact List.mem_cons_self
      · exact List.mem_cons_of_mem _ (among id before)

theorem append (one : InOrder seen first) (two : InOrder (first.map (·.id) ++ seen) second) :
    InOrder seen (first ++ second) := by
  induction first generalizing seen with
  | nil => exact two
  | cons task later ih =>
      obtain ⟨here, after⟩ := one
      refine ⟨here, ih after (two.mono ?_)⟩
      intro id member
      simp only [List.map_cons, List.cons_append, List.mem_cons, List.mem_append] at member ⊢
      tauto

/-- Tasks that are ready can be taken in any order. -/
theorem of_ready (ready : ∀ task ∈ first, isReady seen task = true) : InOrder seen first := by
  induction first generalizing seen with
  | nil => trivial
  | cons task later ih =>
      obtain ⟨here, others⟩ := List.forall_mem_cons.mp ready
      have now : ∀ id ∈ task.dependsOn, id ∈ seen := by simpa [isReady] using here
      exact ⟨now, mono (ih others) fun id before => List.mem_cons_of_mem _ before⟩

/-- What a task in the middle depends on was seen before. -/
theorem seen_before {earlier later : List Task} {task : Task}
    (order : InOrder seen (earlier ++ task :: later)) {id : String}
    (named : id ∈ task.dependsOn) : id ∈ seen ∨ ∃ other ∈ earlier, other.id = id := by
  induction earlier generalizing seen with
  | nil => exact .inl (order.1 id named)
  | cons other earlier ih =>
      rcases ih order.2 with before | ⟨found, member, same⟩
      · rcases List.mem_cons.mp before with rfl | before
        · exact .inr ⟨other, List.mem_cons_self, rfl⟩
        · exact .inl before
      · exact .inr ⟨found, List.mem_cons_of_mem _ member, same⟩

end InOrder

section
variable {tasks : List Task} (acyclic : ∀ id, ¬TransGen (DependsOn tasks) id id)
include acyclic

/-- Without a cycle one of the remaining tasks waits for none of them: a task from which no path
leads to another one. -/
theorem exists_ready {seen : List String} {remaining : List Task}
    (among : ∀ task ∈ remaining, task ∈ tasks) (unfinished : remaining ≠ [])
    (reached : ∀ task ∈ remaining, ∀ id ∈ task.dependsOn,
      id ∈ seen ∨ ∃ other ∈ remaining, other.id = id) :
    ∃ task ∈ remaining, isReady seen task = true := by
  let Waits (other task : { task // task ∈ remaining }) : Prop :=
    TransGen (DependsOn tasks) task.val.id other.val.id
  have trans : IsTrans _ Waits := ⟨fun _ _ _ one two => two.trans one⟩
  have irrefl : Std.Irrefl Waits := ⟨fun task => acyclic task.val.id⟩
  have finite : Finite { task // task ∈ remaining } := (List.finite_toSet remaining).to_subtype
  have nonempty : Nonempty { task // task ∈ remaining } :=
    ⟨_, List.head_mem unfinished⟩
  obtain ⟨⟨task, member⟩, -, least⟩ := (Finite.wellFounded_of_trans_of_irrefl Waits).has_min
    Set.univ Set.univ_nonempty
  refine ⟨task, member, ?_⟩
  have done : ∀ id ∈ task.dependsOn, id ∈ seen := by
    intro id named
    rcases reached task member id named with before | ⟨other, there, rfl⟩
    · exact before
    · have waits : DependsOn tasks task.id other.id := ⟨task, among task member, rfl, named⟩
      exact absurd (.single waits) (least ⟨other, there⟩ trivial)
  simpa [isReady] using done

/-- Without a cycle each round finds tasks that are ready, so no task is taken too early. -/
theorem layerOrder_inOrder (seen : List String) (remaining : List Task)
    (among : ∀ task ∈ remaining, task ∈ tasks)
    (reached : ∀ task ∈ remaining, ∀ id ∈ task.dependsOn,
      id ∈ seen ∨ ∃ other ∈ remaining, other.id = id) :
    InOrder seen (layerOrder seen remaining) := by
  fun_induction layerOrder seen remaining with
  | case1 seen => trivial
  | case2 seen first rest ready waiting fewer ih =>
      refine .append (.of_ready fun task member => (List.mem_filter.mp member).2) (ih ?_ ?_)
      · exact fun task member => among task (List.mem_filter.mp member).1
      · intro task member id named
        rcases reached task (List.mem_filter.mp member).1 id named with before | ⟨other, there, rfl⟩
        · exact .inl (List.mem_append_right _ before)
        · cases now : isReady seen other with
          | true =>
              refine .inl (List.mem_append_left _ ?_)
              exact List.mem_map_of_mem (List.mem_filter.mpr ⟨there, now⟩)
          | false => exact .inr ⟨other, List.mem_filter.mpr ⟨there, by simp [now]⟩, rfl⟩
  | case3 seen first rest waiting none ih =>
      obtain ⟨task, member, ready⟩ := exists_ready acyclic among (List.cons_ne_nil _ _) reached
      refine absurd ?_ none
      exact List.length_filter_lt_length_iff_exists.mpr ⟨task, member, by simp [ready]⟩

theorem orderAfter_inOrder (seen : List String) (layers : List Layer)
    (among : ∀ layer ∈ layers, ∀ task ∈ layer.tasks, task ∈ tasks)
    (backward : ∀ before layer after, layers = before ++ layer :: after →
      ∀ task ∈ layer.tasks, ∀ id ∈ task.dependsOn, id ∈ seen ∨
        ∃ dependency ∈ (before ++ [layer]).flatMap (·.tasks), dependency.id = id) :
    InOrder seen (orderAfter seen layers) := by
  induction layers generalizing seen with
  | nil => trivial
  | cons layer layers ih =>
      obtain ⟨here, others⟩ := List.forall_mem_cons.mp among
      refine .append (layerOrder_inOrder acyclic seen layer.tasks here ?_) (ih _ others ?_)
      · simpa using backward [] layer layers rfl
      · rintro before next after rfl task member id named
        rcases backward (layer :: before) next after rfl task member id named with
          earlier | ⟨dependency, there, rfl⟩
        · exact .inl (List.mem_append_right _ earlier)
        · rw [List.cons_append, List.flatMap_cons, List.mem_append] at there
          rcases there with same | later
          · have taken := (layerOrder_perm seen layer.tasks).mem_iff.mpr same
            exact .inl (List.mem_append_left _ (List.mem_map_of_mem taken))
          · exact .inr ⟨dependency, later, rfl⟩

end

/-! ### The order of a graph -/

/-- Whether tasks depend only on tasks of their own layer and of layers listed before it. -/
def DependsBackward (graph : TaskGraph) : Prop :=
  ∀ before layer after, graph.layers = before ++ layer :: after →
    ∀ task ∈ layer.tasks, ∀ id ∈ task.dependsOn,
      ∃ dependency ∈ (before ++ [layer]).flatMap (·.tasks), dependency.id = id

variable (graph : TaskGraph)

theorem executionOrder_perm : graph.executionOrder.Perm graph.tasks :=
  orderAfter_perm [] graph.layers

/-- A task is done or pending. -/
theorem length_pending_add : graph.pending.length + graph.progress.1 = graph.progress.2 := by
  have counted : graph.progress.1 = graph.executionOrder.countP (·.isDone) :=
    (graph.executionOrder_perm.countP_eq _).symm
  have whole : graph.progress.2 = graph.executionOrder.length :=
    graph.executionOrder_perm.length_eq.symm
  rw [counted, whole, pending, ← List.countP_eq_length_filter,
    List.length_eq_countP_add_countP (·.isDone), Nat.add_comm]
  simp

theorem allDone_iff : graph.allDone = true ↔ 0 < graph.progress.2 ∧ graph.pending = [] := by
  have balance := graph.length_pending_add
  rw [← List.length_eq_zero_iff]
  simp only [allDone, Bool.and_eq_true, decide_eq_true_eq, beq_iff_eq]
  omega

/-- What a task depends on stands before it, unless it is in a later layer or on a cycle. -/
theorem mem_of_executionOrder (distinct : HasDistinctIds graph.tasks)
    (backward : graph.DependsBackward) (acyclic : ∀ id, ¬TransGen (DependsOn graph.tasks) id id)
    {earlier later : List Task} {task dependency : Task}
    (order : graph.executionOrder = earlier ++ task :: later) (known : dependency ∈ graph.tasks)
    (named : dependency.id ∈ task.dependsOn) : dependency ∈ earlier := by
  have sorted : InOrder [] graph.executionOrder := by
    refine orderAfter_inOrder acyclic [] graph.layers ?_ ?_
    · exact fun layer listed task member => List.mem_flatMap.mpr ⟨layer, listed, member⟩
    · exact fun before layer after split task member id named =>
        .inr (backward before layer after split task member id named)
  rw [order] at sorted
  obtain impossible | ⟨other, member, same⟩ := sorted.seen_before named
  · cases impossible
  · have there : other ∈ graph.executionOrder := order ▸ List.mem_append_left _ member
    have among : other ∈ graph.tasks := graph.executionOrder_perm.mem_iff.mp there
    rw [← List.inj_on_of_nodup_map distinct among known same]
    exact member

/-- **The working order of any graph holds each of its tasks once, layer by layer.**  The tasks that
are pending in it and those that are done add up to all of them, and all are done exactly if there
are some and none is pending.  Where tasks depend backward and on no cycle, each comes after all
that it depends on. -/
theorem executionOrder_works_off :
    graph.executionOrder.Perm graph.tasks ∧
      (∃ parts : List (List Task), graph.executionOrder = parts.flatten ∧
        List.Forall₂ (fun part layer => part.Perm layer.tasks) parts graph.layers) ∧
      graph.pending.length + graph.progress.1 = graph.progress.2 ∧
      (graph.allDone = true ↔ 0 < graph.progress.2 ∧ graph.pending = []) ∧
      (HasDistinctIds graph.tasks → graph.DependsBackward →
        (∀ id, ¬TransGen (DependsOn graph.tasks) id id) →
          ∀ earlier task later, graph.executionOrder = earlier ++ task :: later →
            ∀ dependency ∈ graph.tasks, dependency.id ∈ task.dependsOn → dependency ∈ earlier) := by
  refine ⟨graph.executionOrder_perm, orderAfter_parts [] graph.layers, graph.length_pending_add,
    graph.allDone_iff, ?_⟩
  intro distinct backward acyclic earlier task later order dependency known named
  exact graph.mem_of_executionOrder distinct backward acyclic order known named

/-- A layer whose first task waits for its second, which waits for the layer before. -/
def waiting : TaskGraph :=
  ⟨[⟨"data", 1, [taskWith "1.1" 1 []]⟩,
    ⟨"logic", 2, [taskWith "2.1" 2 ["2.2"], taskWith "2.2" 2 ["1.1"]]⟩]⟩

/-- The task that waits is last in the order, after the one it waits for. -/
theorem waiting_works_off :
    HasDistinctIds waiting.tasks ∧ waiting.DependsBackward ∧
      (∀ id, ¬TransGen (DependsOn waiting.tasks) id id) ∧
      waiting.executionOrder =
        [taskWith "1.1" 1 [], taskWith "2.2" 2 ["1.1"]] ++ taskWith "2.1" 2 ["2.2"] :: [] ∧
      taskWith "2.2" 2 ["1.1"] ∈ [taskWith "1.1" 1 [], taskWith "2.2" 2 ["1.1"]] := by
  have distinct : HasDistinctIds waiting.tasks := by decide
  have known : HasKnownDependencies waiting.tasks := by decide
  have searched : cycle? waiting.tasks = none := by cbv
  have order : waiting.executionOrder =
      [taskWith "1.1" 1 [], taskWith "2.2" 2 ["1.1"]] ++ taskWith "2.1" 2 ["2.2"] :: [] := by cbv
  have acyclic := not_cyclic_of_cycle? distinct known searched
  have backward : waiting.DependsBackward := by
    rintro before layer after split
    rcases before with _ | ⟨first, _ | ⟨second, before⟩⟩
    · obtain ⟨rfl, -⟩ := List.cons.inj split
      decide
    · obtain ⟨rfl, others⟩ := List.cons.inj split
      obtain ⟨rfl, -⟩ := List.cons.inj others
      decide
    · obtain ⟨-, others⟩ := List.cons.inj split
      obtain ⟨-, impossible⟩ := List.cons.inj others
      simp at impossible
  refine ⟨distinct, backward, acyclic, order, ?_⟩
  exact waiting.executionOrder_works_off.2.2.2.2 distinct backward acyclic _ _ _ order _
    (by decide) (by decide)

end PlanCycle.TaskGraph
