/-
Module: PlanCycle.Proofs.Dependencies
Purpose: Which task graphs pass the check, and what the search for cycles finds.
Main exports:
  TaskGraph.DependsOn, TaskGraph.IsCycle, TaskGraph.IsSound, TaskGraph.visitAll_settles,
  TaskGraph.fault?_eq_none_iff, TaskGraph.isCycle_of_fault?, TaskGraph.check_finds_faults
-/
import Mathlib.Data.List.Chain
import Mathlib.Data.List.Nodup
import Mathlib.Data.List.Perm.Subperm
import Mathlib.Logic.Relation
import PlanCycle.TaskGraph.Checking

namespace PlanCycle.TaskGraph

open Relation

/-- Whether a task with the first id names the second among its dependencies. -/
def DependsOn (tasks : List Task) (id dependency : String) : Prop :=
  ∃ task ∈ tasks, task.id = id ∧ dependency ∈ task.dependsOn

/-- Whether a path goes along dependencies from an id back to it. -/
def IsCycle (tasks : List Task) (path : List String) : Prop :=
  (∃ first between, path = first :: (between ++ [first])) ∧ path.IsChain (DependsOn tasks)

/-- Whether no two tasks share an id. -/
def HasDistinctIds (tasks : List Task) : Prop :=
  (tasks.map (·.id)).Nodup

/-- Whether some task answers to each dependency. -/
def HasKnownDependencies (tasks : List Task) : Prop :=
  ∀ task ∈ tasks, ∀ id ∈ task.dependsOn, ∃ dependency ∈ tasks, dependency.id = id

/-- Whether each task is in a higher layer than those it depends on. -/
def IsLayered (tasks : List Task) : Prop :=
  ∀ task ∈ tasks, ∀ dependency ∈ tasks, dependency.id ∈ task.dependsOn →
    dependency.layer < task.layer

instance (tasks : List Task) : Decidable (HasDistinctIds tasks) :=
  inferInstanceAs (Decidable (List.Nodup _))

instance (tasks : List Task) : Decidable (HasKnownDependencies tasks) :=
  inferInstanceAs (Decidable (∀ _ ∈ _, ∀ _ ∈ _, _))

instance (tasks : List Task) : Decidable (IsLayered tasks) :=
  inferInstanceAs (Decidable (∀ _ ∈ _, ∀ _ ∈ _, _ → _))

/-- Whether a graph can be worked off layer by layer. -/
structure IsSound (graph : TaskGraph) : Prop where
  distinct : HasDistinctIds graph.tasks
  known : HasKnownDependencies graph.tasks
  layered : IsLayered graph.tasks

variable {tasks : List Task}

/-! ### Tasks by their ids -/

theorem find?_id_eq_some_iff (distinct : HasDistinctIds tasks) {id : String} {task : Task} :
    tasks.find? (·.id == id) = some task ↔ task ∈ tasks ∧ task.id = id := by
  constructor
  · intro found
    exact ⟨List.mem_of_find?_eq_some found, by simpa using List.find?_some found⟩
  · rintro ⟨member, rfl⟩
    cases found : tasks.find? (·.id == task.id) with
    | none =>
        have absent := List.find?_eq_none.mp found task member
        simp at absent
    | some first =>
        have same : first.id = task.id := by simpa using List.find?_some found
        have among : first ∈ tasks := List.mem_of_find?_eq_some found
        rw [List.inj_on_of_nodup_map distinct among member same]

theorem dependsOn_of_mem {id dependency : String} (named : dependency ∈ dependenciesOf tasks id) :
    DependsOn tasks id dependency := by
  unfold dependenciesOf at named
  split at named
  · rename_i task found
    exact ⟨task, List.mem_of_find?_eq_some found, by simpa using List.find?_some found, named⟩
  · cases named

theorem mem_dependenciesOf_iff (distinct : HasDistinctIds tasks) {id dependency : String} :
    dependency ∈ dependenciesOf tasks id ↔ DependsOn tasks id dependency := by
  constructor
  · exact dependsOn_of_mem
  · rintro ⟨task, member, rfl, named⟩
    unfold dependenciesOf
    rw [(find?_id_eq_some_iff distinct).mpr ⟨member, rfl⟩]
    exact named

/-! ### The search for cycles

The path that led to an id is kept last first, so it is a chain of dependencies read backwards, and
an id that is on it already closes a cycle.  An id is settled once all its dependencies are, so no
cycle can be reached from it. -/

/-- Whether a path, last id first, goes along dependencies. -/
def IsTrail (tasks : List Task) (path : List String) : Prop :=
  path.IsChain fun dependency id => DependsOn tasks id dependency

/-- Whether no infinite path along dependencies starts at an id. -/
def IsGrounded (tasks : List Task) (id : String) : Prop :=
  Acc (fun dependency id => dependency ∈ dependenciesOf tasks id) id

theorem IsTrail.isCycle {id : String} {path : List String} (trail : IsTrail tasks (id :: path))
    (closed : id ∈ path) :
    IsCycle tasks (id :: ((path.takeWhile (· != id)).reverse ++ [id])) := by
  obtain ⟨before, after, rfl, absent⟩ := List.eq_append_cons_of_mem closed
  have passed : ∀ other ∈ before, (other != id) = true := by
    intro other member
    simpa using fun same : other = id => absent (same ▸ member)
  have loop : (before ++ id :: after).takeWhile (· != id) = before := by
    rw [List.takeWhile_append_of_pos passed]
    simp
  rw [loop]
  refine ⟨⟨id, before.reverse, rfl⟩, ?_⟩
  have inside : IsTrail tasks (id :: (before ++ [id])) :=
    List.IsChain.prefix trail ⟨after, by simp⟩
  have turned : id :: (before.reverse ++ [id]) = (id :: (before ++ [id])).reverse := by simp
  rw [turned, List.isChain_reverse]
  exact inside

/-- What holds when the search goes on with some ids: a path without repetition leads to each, and
there is fuel for all ids that are not on it. -/
structure Search (tasks : List Task) (fuel : Nat) (path visited ids : List String) : Prop where
  trails : ∀ id ∈ ids, IsTrail tasks (id :: path)
  simple : path.Nodup
  recorded : ∀ id ∈ path ++ ids, id ∈ tasks.map (·.id)
  room : tasks.length < path.length + fuel
  grounded : ∀ id ∈ visited, IsGrounded tasks id

/-- What the search finds: a cycle, or that none can be reached from the ids. -/
def Settles (tasks : List Task) (visited ids : List String) :
    Except (List String) (List String) → Prop
  | .error cycle => IsCycle tasks cycle
  | .ok after =>
      (∀ id ∈ ids, id ∈ after) ∧ (∀ id ∈ visited, id ∈ after) ∧ ∀ id ∈ after, IsGrounded tasks id

namespace Search

variable {fuel : Nat} {path visited ids : List String} {id : String}

/-- A path without repetition is no longer than the list of tasks. -/
theorem fuel_ne_zero (search : Search tasks fuel path visited ids) : fuel ≠ 0 := by
  rintro rfl
  have among : path ⊆ tasks.map (·.id) :=
    fun id member => search.recorded id (List.mem_append_left _ member)
  have short := (List.subperm_of_subset search.simple among).length_le
  have room := search.room
  simp only [List.length_map] at short
  omega

theorem deeper (search : Search tasks (fuel + 1) path visited [id])
    (known : HasKnownDependencies tasks) (fresh : id ∉ path) :
    Search tasks fuel (id :: path) visited (dependenciesOf tasks id) where
  trails dependency named :=
    List.isChain_cons_cons.mpr ⟨dependsOn_of_mem named, search.trails id List.mem_cons_self⟩
  simple := List.nodup_cons.mpr ⟨fresh, search.simple⟩
  recorded other member := by
    simp only [List.cons_append, List.mem_cons, List.mem_append] at member
    rcases member with rfl | before | named
    · exact search.recorded other (by simp)
    · exact search.recorded other (List.mem_append_left _ before)
    · obtain ⟨task, among, -, named⟩ := dependsOn_of_mem named
      obtain ⟨dependency, there, rfl⟩ := known task among other named
      exact List.mem_map_of_mem there
  room := by
    have room := search.room
    simp only [List.length_cons]
    omega
  grounded := search.grounded

/-- Some of the ids can be searched from on the same path, once more ids are settled. -/
theorem of_subset {after fewer : List String} (search : Search tasks fuel path visited ids)
    (among : fewer ⊆ ids) (settled : ∀ id ∈ after, IsGrounded tasks id) :
    Search tasks fuel path after fewer where
  trails other member := search.trails other (among member)
  simple := search.simple
  recorded other member := by
    rcases List.mem_append.mp member with before | later
    · exact search.recorded other (List.mem_append_left _ before)
    · exact search.recorded other (List.mem_append_right _ (among later))
  room := search.room
  grounded := settled

theorem first (search : Search tasks fuel path visited (id :: ids)) :
    Search tasks fuel path visited [id] :=
  search.of_subset (by simp) search.grounded

theorem rest {after : List String} (search : Search tasks fuel path visited (id :: ids))
    (settled : ∀ id ∈ after, IsGrounded tasks id) : Search tasks fuel path after ids :=
  search.of_subset (List.subset_cons_self id ids) settled

end Search

/-- The search finds a cycle or settles all ids that it is given. -/
theorem visitAll_settles (known : HasKnownDependencies tasks) (fuel : Nat)
    (path visited ids : List String) :
    Search tasks fuel path visited ids →
      Settles tasks visited ids (visitAll tasks fuel path visited ids) := by
  -- The induction follows the search: one id with its dependencies, and lists of ids.
  refine (visit.mutual_induct tasks
    (fun fuel path visited id => Search tasks fuel path visited [id] →
      Settles tasks visited [id] (visit tasks fuel path visited id))
    (fun fuel path visited ids => Search tasks fuel path visited ids →
      Settles tasks visited ids (visitAll tasks fuel path visited ids))
    ?closed ?settled ?spent ?cyclic ?grounded ?none ?stop ?next).2 fuel path visited ids
  case closed =>
    intro fuel path visited id onPath search
    unfold visit
    rw [if_pos onPath]
    exact (search.trails id List.mem_cons_self).isCycle onPath
  case settled =>
    intro fuel path visited id fresh before search
    unfold visit
    rw [if_neg fresh, if_pos before]
    exact ⟨by simpa using before, fun _ member => member, search.grounded⟩
  case spent =>
    intro path visited id fresh new search
    exact absurd rfl search.fuel_ne_zero
  case cyclic =>
    intro path visited id fresh new fuel cycle found ih search
    have finds := ih (search.deeper known fresh)
    rw [found] at finds
    rw [visit, if_neg fresh, if_neg new]
    simp only [found]
    exact finds
  case grounded =>
    intro path visited id fresh new fuel after found ih search
    have finds := ih (search.deeper known fresh)
    rw [found] at finds
    obtain ⟨below, kept, ground⟩ := finds
    rw [visit, if_neg fresh, if_neg new]
    simp only [found]
    refine ⟨by simp, fun other member => List.mem_cons_of_mem _ (kept other member), ?_⟩
    refine List.forall_mem_cons.mpr ⟨?_, ground⟩
    exact Acc.intro id fun dependency named => ground dependency (below dependency named)
  case none =>
    intro fuel path visited search
    rw [visitAll]
    exact ⟨by simp, fun _ member => member, search.grounded⟩
  case stop =>
    intro fuel path visited id ids cycle found ih search
    have finds := ih search.first
    rw [found] at finds
    rw [visitAll]
    simp only [found]
    exact finds
  case next =>
    intro fuel path visited id ids after found first others search
    have finds := first search.first
    rw [found] at finds
    obtain ⟨here, kept, ground⟩ := finds
    have later := others (search.rest ground)
    rw [visitAll]
    simp only [found]
    cases ended : visitAll tasks fuel path after ids with
    | error cycle =>
        rw [ended] at later
        exact later
    | ok last =>
        rw [ended] at later
        obtain ⟨there, stays, ground⟩ := later
        refine ⟨List.forall_mem_cons.mpr ⟨?_, there⟩, fun other member => ?_, ground⟩
        · exact stays id (here id List.mem_cons_self)
        · exact stays other (kept other member)

theorem cycle?_settles (known : HasKnownDependencies tasks) :
    Settles tasks [] (tasks.map (·.id))
      (visitAll tasks (tasks.length + 1) [] [] (tasks.map (·.id))) :=
  visitAll_settles known _ _ _ _
    { trails := fun _ _ => List.isChain_singleton _
      simple := List.nodup_nil
      recorded := fun _ member => member
      room := by simp
      grounded := nofun }

/-- What the search answers with is a cycle. -/
theorem isCycle_of_cycle? (known : HasKnownDependencies tasks) {path : List String}
    (found : cycle? tasks = some path) : IsCycle tasks path := by
  have settles := cycle?_settles known
  unfold cycle? at found
  split at found
  · rename_i cycle answered
    cases found
    rw [answered] at settles
    exact settles
  · cases found

/-- No cycle goes through an id from which every path ends. -/
theorem IsGrounded.not_cyclic (distinct : HasDistinctIds tasks) {id : String}
    (ground : IsGrounded tasks id) : ¬TransGen (DependsOn tasks) id id := by
  have ends : Acc (TransGen fun dependency id => DependsOn tasks id dependency) id := by
    refine Acc.transGen (Subrelation.accessible ?_ ground)
    exact fun names => (mem_dependenciesOf_iff distinct).mpr names
  intro around
  have back := transGen_swap.mpr around
  clear ground around
  induction ends with
  | intro id _ ih => exact ih id back back

/-- Where the search finds nothing, no task depends on itself along any path. -/
theorem not_cyclic_of_cycle? (distinct : HasDistinctIds tasks)
    (known : HasKnownDependencies tasks) (none : cycle? tasks = none) (id : String) :
    ¬TransGen (DependsOn tasks) id id := by
  intro around
  obtain ⟨_, ⟨task, member, rfl, -⟩, -⟩ := TransGen.head'_iff.mp around
  have settles := cycle?_settles known
  unfold cycle? at none
  split at none
  · cases none
  · rename_i after answered
    rw [answered] at settles
    obtain ⟨there, -, ground⟩ := settles
    have settled : IsGrounded tasks task.id :=
      ground task.id (there task.id (List.mem_map_of_mem member))
    exact settled.not_cyclic distinct around

/-! ### Layers along dependencies -/

/-- A chain leads from its first id to its last. -/
theorem transGen_of_isChain {first last : String} {between : List String}
    (chain : (first :: (between ++ [last])).IsChain (DependsOn tasks)) :
    TransGen (DependsOn tasks) first last := by
  induction between generalizing first with
  | nil => exact .single (List.isChain_cons_cons.mp chain).1
  | cons next between ih =>
      obtain ⟨here, later⟩ := List.isChain_cons_cons.mp chain
      exact .head here (ih later)

/-- Where tasks are in higher layers than those they depend on, no path comes back to its id. -/
theorem IsLayered.not_isCycle (layered : IsLayered tasks) (distinct : HasDistinctIds tasks)
    (known : HasKnownDependencies tasks) (path : List String) : ¬IsCycle tasks path := by
  rintro ⟨⟨first, between, rfl⟩, chain⟩
  let layerOf (id : String) : Option Int := (tasks.find? (·.id == id)).map (·.layer)
  have lower {id dependency : String} (depends : DependsOn tasks id dependency) :
      ∃ above below, layerOf id = some above ∧ layerOf dependency = some below ∧ below < above := by
    obtain ⟨task, member, rfl, named⟩ := depends
    obtain ⟨other, there, rfl⟩ := known task member _ named
    refine ⟨task.layer, other.layer, ?_, ?_, layered task member other there named⟩
    · simp only [layerOf, (find?_id_eq_some_iff distinct).mpr ⟨member, rfl⟩, Option.map_some]
    · simp only [layerOf, (find?_id_eq_some_iff distinct).mpr ⟨there, rfl⟩, Option.map_some]
  have falls {last : String} (path : TransGen (DependsOn tasks) first last) :
      ∃ above below, layerOf first = some above ∧ layerOf last = some below ∧ below < above := by
    induction path with
    | single depends => exact lower depends
    | tail _ depends ih =>
        obtain ⟨above, middle, top, here, high⟩ := ih
        obtain ⟨again, below, same, bottom, low⟩ := lower depends
        obtain rfl : again = middle := Option.some.inj (same.symm.trans here)
        exact ⟨above, below, top, bottom, Int.lt_trans low high⟩
  obtain ⟨above, below, top, bottom, less⟩ := falls (transGen_of_isChain chain)
  obtain rfl : below = above := Option.some.inj (bottom.symm.trans top)
  exact Int.lt_irrefl _ less

/-! ### The parts of the check -/

theorem duplicateId?_eq_none_iff {seen : List String} :
    duplicateId? seen tasks = none ↔ HasDistinctIds tasks ∧ ∀ task ∈ tasks, task.id ∉ seen := by
  induction tasks generalizing seen with
  | nil => simp [duplicateId?, HasDistinctIds]
  | cons task tasks ih =>
      unfold duplicateId?
      split
      · rename_i before
        exact ⟨nofun, fun ⟨_, fresh⟩ => absurd before (fresh task List.mem_cons_self)⟩
      · rename_i fresh
        rw [ih]
        simp only [HasDistinctIds, List.map_cons, List.nodup_cons, List.mem_map, List.mem_cons,
          not_or, forall_eq_or_imp]
        constructor
        · rintro ⟨distinct, others⟩
          refine ⟨⟨?_, distinct⟩, fresh, fun other member => (others other member).2⟩
          rintro ⟨other, member, same⟩
          exact (others other member).1 same
        · rintro ⟨⟨alone, distinct⟩, -, others⟩
          refine ⟨distinct, fun other member => ⟨?_, others other member⟩⟩
          exact fun same => alone ⟨other, member, same⟩

theorem unknownDependency?_eq_none_iff :
    unknownDependency? tasks = none ↔ HasKnownDependencies tasks := by
  unfold unknownDependency? HasKnownDependencies
  rw [List.findSome?_eq_none_iff]
  refine forall₂_congr fun task _ => ?_
  rw [Option.map_eq_none_iff, List.find?_eq_none]
  simp

theorem inversion?_eq_none_iff (distinct : HasDistinctIds tasks)
    (known : HasKnownDependencies tasks) : inversion? tasks = none ↔ IsLayered tasks := by
  unfold inversion?
  simp only [List.findSome?_eq_none_iff]
  constructor
  · intro none task member dependency there named
    have checked := none task member dependency.id named
    rw [(find?_id_eq_some_iff distinct).mpr ⟨there, rfl⟩] at checked
    simpa using checked
  · intro layered task member id named
    obtain ⟨dependency, there, rfl⟩ := known task member id named
    rw [(find?_id_eq_some_iff distinct).mpr ⟨there, rfl⟩]
    simpa using layered task member dependency there named

/-- What is found last is not a cycle. -/
theorem inversion?_ne_cycle (path : List String) : inversion? tasks ≠ some (.cycle path) := by
  intro found
  obtain ⟨task, -, found⟩ := List.exists_of_findSome?_eq_some found
  obtain ⟨id, -, found⟩ := List.exists_of_findSome?_eq_some found
  split at found
  · split at found
    · cases found
    · cases found
  · cases found

/-! ### The check as a whole -/

variable {graph : TaskGraph}

/-- Once ids are distinct and dependencies known, the check reports a cycle or else what is in a
wrong layer. -/
theorem fault?_of_known (distinct : HasDistinctIds graph.tasks)
    (known : HasKnownDependencies graph.tasks) :
    graph.fault? = ((cycle? graph.tasks).map TaskFault.cycle).or (inversion? graph.tasks) := by
  have unique := duplicateId?_eq_none_iff.mpr ⟨distinct, fun _ _ => List.not_mem_nil⟩
  have answered := unknownDependency?_eq_none_iff.mpr known
  unfold fault?
  cases searched : cycle? graph.tasks with
  | none => simp only [unique, answered, searched, Option.map_none, Option.none_or]
  | some path => simp only [unique, answered, searched, Option.map_some, Option.some_or]

/-- The check looks at cycles and layers only if ids are distinct and dependencies known. -/
theorem known_of_fault? {result : Option TaskFault} (checked : graph.fault? = result)
    (unique : ∀ id, result ≠ some (.duplicateId id))
    (answered : ∀ id dependency, result ≠ some (.unknownDependency id dependency)) :
    HasDistinctIds graph.tasks ∧ HasKnownDependencies graph.tasks := by
  unfold fault? at checked
  dsimp only at checked
  split at checked
  · exact absurd checked.symm (unique _)
  · rename_i distinct
    split at checked
    · exact absurd checked.symm (answered _ _)
    · rename_i known
      exact ⟨(duplicateId?_eq_none_iff.mp distinct).1, unknownDependency?_eq_none_iff.mp known⟩

/-- What the check reports as a cycle is one. -/
theorem isCycle_of_fault? {path : List String} (found : graph.fault? = some (.cycle path)) :
    IsCycle graph.tasks path := by
  obtain ⟨distinct, known⟩ := known_of_fault? found (by simp) (by simp)
  rw [fault?_of_known distinct known] at found
  cases searched : cycle? graph.tasks with
  | some cycle =>
      rw [searched] at found
      cases found
      exact isCycle_of_cycle? known searched
  | none =>
      rw [searched] at found
      exact absurd found (inversion?_ne_cycle path)

/-- The check finds no fault exactly in a graph that can be worked off. -/
theorem fault?_eq_none_iff : graph.fault? = none ↔ graph.IsSound := by
  constructor
  · intro none
    obtain ⟨distinct, known⟩ := known_of_fault? none (by simp) (by simp)
    rw [fault?_of_known distinct known, Option.or_eq_none_iff] at none
    exact ⟨distinct, known, (inversion?_eq_none_iff distinct known).mp none.2⟩
  · rintro ⟨distinct, known, layered⟩
    rw [fault?_of_known distinct known]
    cases searched : cycle? graph.tasks with
    | some path =>
        exact absurd (isCycle_of_cycle? known searched) (layered.not_isCycle distinct known path)
    | none => exact (inversion?_eq_none_iff distinct known).mpr layered

/-- **The check finds what is wrong with a graph, and nothing else.**  It passes exactly the graphs
that can be worked off; where ids are distinct and dependencies known, a cycle is what it reports if
there is one; and what it reports as a cycle goes along dependencies from an id back to it. -/
theorem check_finds_faults (graph : TaskGraph) :
    (graph.fault? = none ↔ graph.IsSound) ∧
      (HasDistinctIds graph.tasks → HasKnownDependencies graph.tasks →
        (∃ id, TransGen (DependsOn graph.tasks) id id) →
          ∃ path, graph.fault? = some (.cycle path)) ∧
      ∀ path, graph.fault? = some (.cycle path) → IsCycle graph.tasks path := by
  refine ⟨fault?_eq_none_iff, ?_, fun path found => isCycle_of_fault? found⟩
  rintro distinct known ⟨id, around⟩
  rw [fault?_of_known distinct known]
  cases searched : cycle? graph.tasks with
  | some path => exact ⟨path, rfl⟩
  | none => exact absurd around (not_cyclic_of_cycle? distinct known searched id)

/-- A task that only has an id, a layer and dependencies. -/
def taskWith (id : String) (layer : Int) (dependsOn : List String) : Task :=
  { id, layer, title := id, file := "a", action := .create, dependsOn }

/-- Four tasks of one layer: from the first two a cycle of the other two is reached. -/
def entangled : TaskGraph :=
  ⟨[⟨"data", 1, [taskWith "1.1" 1 ["1.2"], taskWith "1.2" 1 ["1.3", "1.4"],
    taskWith "1.3" 1 ["1.4"], taskWith "1.4" 1 ["1.3"]]⟩]⟩

/-- Two tasks that wait for the same task of a lower layer, and one that waits for both. -/
def untangled : TaskGraph :=
  ⟨[⟨"data", 1, [taskWith "1.1" 1 []]⟩,
    ⟨"logic", 2, [taskWith "2.1" 2 ["1.1"], taskWith "2.2" 2 ["1.1"]]⟩,
    ⟨"testing", 4, [taskWith "4.1" 4 ["2.1", "2.2"]]⟩]⟩

/-- The cycle of the one graph is found, and the other graph passes. -/
theorem check_tells_entangled_apart :
    HasDistinctIds entangled.tasks ∧ HasKnownDependencies entangled.tasks ∧
      TransGen (DependsOn entangled.tasks) "1.3" "1.3" ∧
      (∃ path, entangled.fault? = some (.cycle path) ∧ IsCycle entangled.tasks path) ∧
      untangled.IsSound ∧ untangled.fault? = none := by
  have distinct : HasDistinctIds entangled.tasks := by decide
  have known : HasKnownDependencies entangled.tasks := by decide
  have there : DependsOn entangled.tasks "1.3" "1.4" :=
    ⟨taskWith "1.3" 1 ["1.4"], by decide, rfl, by decide⟩
  have back : DependsOn entangled.tasks "1.4" "1.3" :=
    ⟨taskWith "1.4" 1 ["1.3"], by decide, rfl, by decide⟩
  have around : TransGen (DependsOn entangled.tasks) "1.3" "1.3" := .head there (.single back)
  have sound : untangled.IsSound := ⟨by decide, by decide, by decide⟩
  obtain ⟨-, reports, cyclic⟩ := check_finds_faults entangled
  obtain ⟨path, found⟩ := reports distinct known ⟨"1.3", around⟩
  exact ⟨distinct, known, around, ⟨path, found, cyclic path found⟩, sound,
    (check_finds_faults untangled).1.mpr sound⟩

end PlanCycle.TaskGraph
