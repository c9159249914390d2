/-
Module: PlanCycle.Proofs.AcceptedTasks
Purpose: What holds of every task graph that is read from a document.
Main exports:
  TaskList.mapM_ok, TaskList.block?_suffix, TaskList.tasksOf_ok, TaskList.AppearFrom,
  TaskList.IsLayerNumber, TaskList.Declares, TaskList.declaredLayers_ok, TaskGraph.Represents,
  TaskGraph.read_ok_iff, TaskGraph.read_represents
-/
import PlanCycle.Proofs.Dependencies
import PlanCycle.Proofs.Layering
import PlanCycle.Proofs.Numerals

namespace PlanCycle

open Text Yaml

namespace TaskList

/-! ### Results in sequence -/

section
variable {α β δ ε : Type}

theorem bind_ok_iff {first : Except ε α} {next : α → Except ε β} {value : β} :
    (first >>= next) = .ok value ↔ ∃ between, first = .ok between ∧ next between = .ok value := by
  cases first with
  | error fault => exact ⟨nofun, nofun⟩
  | ok between =>
      constructor
      · intro given
        exact ⟨between, rfl, given⟩
      · rintro ⟨_, ⟨⟩, given⟩
        exact given

theorem map_ok_iff {first : Except ε α} {change : α → β} {value : β} :
    first.map change = .ok value ↔ ∃ between, first = .ok between ∧ change between = value := by
  cases first with
  | error fault => exact ⟨nofun, nofun⟩
  | ok between =>
      constructor
      · rintro ⟨⟩
        exact ⟨between, rfl, rfl⟩
      · rintro ⟨_, ⟨⟩, rfl⟩
        rfl

theorem mapError_ok_iff {first : Except ε α} {change : ε → δ} {value : α} :
    first.mapError change = .ok value ↔ first = .ok value := by
  cases first with
  | error fault => exact ⟨nofun, nofun⟩
  | ok between => simp [Except.mapError]

theorem mapM_ok {read : α → Except ε β} {items : List α} {values : List β}
    (all : items.mapM read = .ok values) : items.map read = values.map .ok := by
  induction items generalizing values with
  | nil =>
      cases all
      rfl
  | cons item items ih =>
      rw [List.mapM_cons] at all
      obtain ⟨value, here, all⟩ := bind_ok_iff.mp all
      obtain ⟨others, later, all⟩ := bind_ok_iff.mp all
      cases all
      rw [List.map_cons, List.map_cons, here, ih later]

theorem ok_of_mapM_ok {read : α → Except ε β} {items : List α} {values : List β}
    (all : items.mapM read = .ok values) {item : α} (member : item ∈ items) :
    ∃ value, read item = .ok value := by
  have among : read item ∈ values.map .ok := mapM_ok all ▸ List.mem_map_of_mem member
  obtain ⟨value, -, same⟩ := List.mem_map.mp among
  exact ⟨value, same.symm⟩

theorem mem_of_mapM_ok {read : α → Except ε β} {items : List α} {values : List β}
    (all : items.mapM read = .ok values) {value : β} :
    value ∈ values ↔ ∃ item ∈ items, read item = .ok value := by
  rw [← List.mem_map, mapM_ok all]
  constructor
  · exact List.mem_map_of_mem
  · intro member
    obtain ⟨other, among, same⟩ := List.mem_map.mp member
    exact Except.ok.inj same ▸ among

end

/-! ### Parts of a text -/

section
variable {text rest body : List Char}

theorem dropThree?_suffix {c : Char} (found : dropThree? c text = some rest) : rest <:+ text := by
  unfold dropThree? at found
  split at found
  · split at found
    · cases found
      exact ⟨[_, _, _], rfl⟩
    · cases found
  · cases found

theorem afterBlankLines_suffix (found : rest ∈ afterBlankLines text) : rest <:+ text := by
  induction text with
  | nil => cases found
  | cons c text ih =>
      unfold afterBlankLines at found
      split at found
      · cases found
      · split at found
        · rcases List.mem_append.mp found with later | here
          · exact (ih later).trans (List.suffix_cons c text)
          · rw [List.mem_singleton.mp here]
            exact List.suffix_cons c text
        · exact (ih found).trans (List.suffix_cons c text)

theorem fence?_suffix (found : fence? text = some rest) : rest <:+ text := by
  unfold fence? at found
  simp only [Option.bind_eq_bind, Option.bind_eq_some_iff] at found
  obtain ⟨tagged, dropped, found⟩ := found
  have marks := dropThree?_suffix dropped
  split at found
  · exact (afterBlankLines_suffix (List.mem_of_head? found)).trans
      (.trans ⟨['y', 'a', 'm', 'l'], rfl⟩ marks)
  · exact (afterBlankLines_suffix (List.mem_of_head? found)).trans
      (.trans ⟨['y', 'm', 'l'], rfl⟩ marks)
  · cases found

theorem upToFence?_suffix (found : upToFence? text = some (body, rest)) : rest <:+ text := by
  induction text generalizing body with
  | nil => cases found
  | cons c text ih =>
      unfold upToFence? at found
      split at found
      · rename_i after dropped
        cases found
        exact dropThree?_suffix dropped
      · obtain ⟨⟨inner, after⟩, inside, same⟩ := Option.map_eq_some_iff.mp found
        cases same
        exact (ih inside).trans (List.suffix_cons c text)

/-- What follows a block ends the text. -/
theorem block?_suffix (found : block? text = some (body, rest)) : rest <:+ text := by
  obtain ⟨after, fenced, closed⟩ := Option.bind_eq_some_iff.mp found
  exact (upToFence?_suffix closed).trans (fence?_suffix fenced)

theorem headEnd?_suffix (found : headEnd? text = some rest) : rest <:+ text := by
  unfold headEnd? at found
  split at found
  · simp only [Option.bind_eq_bind, Option.bind_eq_some_iff] at found
    obtain ⟨after, dropped, found⟩ := found
    have line := (dropThree?_suffix dropped).trans (List.suffix_cons '\n' _)
    split at found
    · cases found
      exact List.nil_suffix
    · exact (afterBlankLines_suffix (List.mem_of_head? found)).trans line
  · cases found

theorem upToHeadEnd?_suffix (found : upToHeadEnd? text = some (body, rest)) : rest <:+ text := by
  induction text generalizing body with
  | nil => cases found
  | cons c text ih =>
      unfold upToHeadEnd? at found
      split at found
      · rename_i after ended
        cases found
        exact headEnd?_suffix ended
      · obtain ⟨⟨inner, after⟩, inside, same⟩ := Option.map_eq_some_iff.mp found
        cases same
        exact (ih inside).trans (List.suffix_cons c text)

theorem head?_suffix (found : head? text = some (body, rest)) : rest <:+ text := by
  unfold head? at found
  simp only [Option.bind_eq_bind, Option.bind_eq_some_iff] at found
  obtain ⟨after, dropped, found⟩ := found
  obtain ⟨line, member, ended⟩ := List.exists_of_findSome?_eq_some found
  exact (upToHeadEnd?_suffix ended).trans ((afterBlankLines_suffix member).trans
    ((dropThree?_suffix dropped).trans (List.dropWhile_suffix _)))

end

/-- What follows the head of a document; all of it if it has no head. -/
def bodyOf (text : List Char) : List Char :=
  match head? text with
  | some (_, rest) => rest
  | none => text

theorem bodyOf_suffix (text : List Char) : bodyOf text <:+ text := by
  unfold bodyOf
  split
  · rename_i found
    exact head?_suffix found
  · exact List.suffix_refl text

/-! ### Tasks at their places -/

/-- The task that a block contributes, if it is one. -/
def Entry.task? : Entry → Option Task
  | .task described => some described
  | .unreadable => none
  | .other => none

/-- The task that a block describes, if it is one. -/
def taskAt? (block : List Char × List Char) : Option Task :=
  (entryOf block.1 block.2).toOption.bind Entry.task?

section
variable {before body : List Char}

theorem taskAt?_of_ok {found : Entry} (read : entryOf before body = .ok found) :
    taskAt? (before, body) = found.task? := by
  unfold taskAt?
  rw [read]
  rfl

theorem entryOf_of_taskAt? {task : Task} (described : taskAt? (before, body) = some task) :
    entryOf before body = .ok (.task task) := by
  obtain ⟨found, read, same⟩ := Option.bind_eq_some_iff.mp described
  cases entry : entryOf before body with
  | error fault =>
      rw [entry] at read
      cases read
  | ok whole =>
      rw [entry] at read
      cases read
      cases found with
      | task own =>
          cases same
          rfl
      | _ => cases same

end

/-- The tasks of a list of blocks are those that the blocks describe, one after the other, once each
block can be read. -/
theorem tasksOf_ok {blocks : List (List Char × List Char)} {tasks : List Task}
    (read : (tasksOf blocks).2 = .ok tasks) : tasks = blocks.filterMap taskAt? ∧
      ∀ block ∈ blocks, ∃ found, entryOf block.1 block.2 = .ok found := by
  induction blocks generalizing tasks with
  | nil =>
      cases read
      exact ⟨rfl, nofun⟩
  | cons block blocks ih =>
      obtain ⟨before, body⟩ := block
      rcases reading : tasksOf blocks with ⟨skipped, others⟩
      rw [reading] at ih
      unfold tasksOf at read
      cases entry : entryOf before body with
      | error fault =>
          rw [entry] at read
          cases read
      | ok found =>
          simp only [entry, reading] at read
          rw [List.forall_mem_cons]
          cases found with
          | task task =>
              obtain ⟨later, rfl, rfl⟩ := map_ok_iff.mp read
              obtain ⟨same, all⟩ := ih rfl
              rw [List.filterMap_cons_some (taskAt?_of_ok entry), ← same]
              exact ⟨rfl, ⟨_, entry⟩, all⟩
          | unreadable =>
              obtain ⟨same, all⟩ := ih read
              rw [List.filterMap_cons_none (taskAt?_of_ok entry), ← same]
              exact ⟨rfl, ⟨_, entry⟩, all⟩
          | other =>
              obtain ⟨same, all⟩ := ih read
              rw [List.filterMap_cons_none (taskAt?_of_ok entry), ← same]
              exact ⟨rfl, ⟨_, entry⟩, all⟩

/-- Whether one of the blocks of a document begins at a place and describes a task, with the text
between the head and the block before it. -/
def IsDescribedAt (document : List Char) (place : Nat) (task : Task) : Prop :=
  ∃ head before body, document = head ++ bodyOf document ∧
    (before, body) ∈ blocksAfter [] (bodyOf document) ∧ place = (head ++ before).length ∧
    entryOf before body = .ok (.task task)

/-- Whether tasks are described in a document one after the other, from a place on. -/
def AppearFrom (document : List Char) : (start : Nat) → List Task → Prop
  | _, [] => True
  | start, task :: later =>
      ∃ place, start ≤ place ∧ IsDescribedAt document place task ∧
        AppearFrom document (place + 1) later

section
variable {document : List Char} {start : Nat} {tasks : List Task}

theorem AppearFrom.earlier (appear : AppearFrom document start tasks) {sooner : Nat}
    (before : sooner ≤ start) : AppearFrom document sooner tasks := by
  cases tasks with
  | nil => trivial
  | cons task later =>
      obtain ⟨place, after, here, others⟩ := appear
      exact ⟨place, Nat.le_trans before after, here, others⟩

/-- Some of the tasks appear in the same order. -/
theorem AppearFrom.filter (appear : AppearFrom document start tasks) (keep : Task → Bool) :
    AppearFrom document start (tasks.filter keep) := by
  induction tasks generalizing start with
  | nil => trivial
  | cons task later ih =>
      obtain ⟨place, after, here, others⟩ := appear
      rw [List.filter_cons]
      split
      · exact ⟨place, after, here, ih others⟩
      · exact (ih others).earlier (by omega)

/-- The tasks that some last blocks of a document describe appear in the order of the blocks. -/
theorem appearFrom_blocks {head before text : List Char}
    (whole : document = head ++ bodyOf document)
    (among : ∀ block ∈ blocksAfter before text, block ∈ blocksAfter [] (bodyOf document)) :
    AppearFrom document (head ++ before.reverse).length
      ((blocksAfter before text).filterMap taskAt?) := by
  fun_induction blocksAfter before text with
  | case1 before text body rest found consumed ih =>
      obtain ⟨front, rfl⟩ := block?_suffix found
      have taken : consumed.reverse = front := by
        simp [consumed]
      have filled : 0 < front.length := by
        simpa using length_block? found
      rw [List.forall_mem_cons] at among
      have later : AppearFrom document ((head ++ before.reverse).length + 1)
          ((blocksAfter (consumed ++ before) rest).filterMap taskAt?) := by
        refine (ih among.2).earlier ?_
        rw [List.reverse_append, taken]
        simp only [List.length_append]
        omega
      cases described : taskAt? (before.reverse, body) with
      | none =>
          rw [List.filterMap_cons_none described]
          exact later.earlier (Nat.le_succ _)
      | some task =>
          rw [List.filterMap_cons_some described]
          have here : IsDescribedAt document (head ++ before.reverse).length task :=
            ⟨head, before.reverse, body, whole, among.1, rfl, entryOf_of_taskAt? described⟩
          exact ⟨_, Nat.le_refl _, here, later⟩
  | case2 before => trivial
  | case3 before c text none ih => exact (ih among).earlier (by simp)

theorem appearFrom_document (document : List Char) :
    AppearFrom document 0 ((blocksAfter [] (bodyOf document)).filterMap taskAt?) := by
  obtain ⟨head, whole⟩ := bodyOf_suffix document
  exact (appearFrom_blocks whole.symm fun _ member => member).earlier (Nat.zero_le _)

end

/-! ### The layer of a task -/

/-- Whether an id begins with the number of a layer, up to its end or its first dot. -/
def IsLayerNumber (id : String) (number : Int) : Prop :=
  ∃ digits rest, id.toList = digits ++ rest ∧ digits ≠ [] ∧ (∀ c ∈ digits, isDecimal c = true) ∧
    (rest = [] ∨ ∃ tail, rest = '.' :: tail) ∧ number = (Number.numberOf digits : Int)

theorem isLayerNumber_of_readInt? {id : String} {number : Int} (filled : layerPart id ≠ [])
    (all : ∀ c ∈ layerPart id, isDigit c = true)
    (read : Number.readInt? 10 (layerPart id) = some number) : IsLayerNumber id number := by
  rw [Number.readInt?_digits filled all] at read
  split at read
  · rename_i places
    refine ⟨layerPart id, id.toList.dropWhile (· != '.'), List.takeWhile_append_dropWhile.symm,
      filled, List.all_eq_true.mp places.1, ?_, (Option.some.inj read).symm⟩
    cases rest : id.toList.dropWhile (· != '.') with
    | nil => exact .inl rfl
    | cons c tail =>
        have stopped := List.head?_dropWhile_not (· != '.') id.toList
        rw [rest] at stopped
        exact .inr ⟨tail, by simpa using stopped⟩
  · cases read

/-- Whether a task is what a block says of it. -/
structure Describes (data : Value) (id : String) (task : Task) : Prop where
  named : task.id = id
  filled : layerPart id ≠ []
  digits : ∀ c ∈ layerPart id, isDigit c = true
  layer : Number.readInt? 10 (layerPart id) = some task.layer
  action : actionOf data id = .ok task.action
  status : statusOf data id = .ok task.status
  file : textOf (fieldOf data "file") = .ok task.file
  specRef : specRefOf data = .ok task.specRef
  dependsOn : dependenciesOf data = .ok task.dependsOn

theorem taskOf_ok {data : Value} {id title : String} {task : Task}
    (made : taskOf data id title = .ok task) : Describes data id task := by
  unfold taskOf at made
  dsimp only at made
  split at made
  · cases made
  · rename_i numbered
    simp only [Bool.or_eq_true, not_or, Bool.not_eq_true, Bool.not_eq_false', List.isEmpty_iff,
      List.all_eq_true] at numbered
    obtain ⟨action, acts, made⟩ := bind_ok_iff.mp made
    obtain ⟨status, stands, made⟩ := bind_ok_iff.mp made
    split at made
    · cases made
    · split at made
      · cases made
      · rename_i layer placed
        obtain ⟨file, written, made⟩ := bind_ok_iff.mp made
        obtain ⟨specRef, refers, made⟩ := bind_ok_iff.mp made
        obtain ⟨dependsOn, waits, made⟩ := bind_ok_iff.mp made
        cases made
        exact ⟨rfl, numbered.1, numbered.2, placed, acts, stands, written, refers, waits⟩

/-- What a block that can be read is. -/
theorem entryOf_ok {before body : List Char} {found : Entry}
    (read : entryOf before body = .ok found) :
    (Value.load body = .error .malformed ∧ found = .unreadable) ∨
      ∃ data, Value.load body = .ok data ∧
        ((data.field? "id" = none ∧ found = .other) ∨
          ∃ id name task, data.field? "id" = some id ∧ textOf id = .ok name ∧
            Describes data name task ∧ found = .task task) := by
  unfold entryOf at read
  split at read
  · rename_i malformed
    cases read
    exact .inl ⟨malformed, rfl⟩
  · cases read
  · rename_i data loaded
    refine .inr ⟨data, loaded, ?_⟩
    split at read
    · rename_i unnamed
      cases read
      exact .inl ⟨unnamed, rfl⟩
    · rename_i id named
      obtain ⟨name, written, read⟩ := bind_ok_iff.mp read
      obtain ⟨task, made, same⟩ := bind_ok_iff.mp read
      cases same
      exact .inr ⟨id, name, task, named, written, taskOf_ok made, rfl⟩

theorem entryOf_task {before body : List Char} {task : Task}
    (read : entryOf before body = .ok (.task task)) : IsLayerNumber task.id task.layer := by
  rcases entryOf_ok read with ⟨-, impossible⟩ | ⟨data, -, ⟨-, impossible⟩ |
    ⟨id, name, made, -, -, described, same⟩⟩
  · cases impossible
  · cases impossible
  · cases same
    rw [described.named]
    exact isLayerNumber_of_readInt? described.filled described.digits described.layer

/-! ### The declared layers -/

/-- Whether a head names a layer of a number. -/
def Names (head : Value) (order : Int) : Prop :=
  ∃ layers names name, head.field? "layers" = some layers ∧ layers.isPresent = true ∧
    layerNames head layers = .ok names ∧ name ∈ names ∧ layerNumber? name.asText = some order

/-- Whether the head of a document names a layer of a number. -/
def Declares (document : List Char) (order : Int) : Prop :=
  ∃ head rest value, head? document = some (head, rest) ∧ Value.load head = .ok value ∧
    Names value order

theorem textOf_ok {value : Value} {text : String} (read : textOf value = .ok text) :
    value.isWritable = true ∧ text = value.asText := by
  unfold textOf at read
  split at read
  · rename_i writable
    exact ⟨writable, (Except.ok.inj read).symm⟩
  · cases read

theorem orderOf_ok {value : Value} {order : Int} (read : orderOf value = .ok order) :
    value.isWritable = true ∧ layerNumber? value.asText = some order := by
  obtain ⟨name, written, read⟩ := bind_ok_iff.mp read
  obtain ⟨writable, rfl⟩ := textOf_ok written
  split at read
  · rename_i found
    rw [found, Except.ok.inj read]
    exact ⟨writable, rfl⟩
  · cases read

/-- A value that says nothing has no fields. -/
theorem field?_of_not_isPresent {value : Value} (absent : value.isPresent = false) (name : String) :
    value.field? name = none := by
  cases value with
  | dict fields =>
      have none : fields = [] := by simpa [Value.isPresent] using absent
      rw [none]
      rfl
  | _ => rfl

theorem isPresent_of_field? {head value : Value} {name : String}
    (found : head.field? name = some value) : head.isPresent = true := by
  cases present : head.isPresent with
  | true => rfl
  | false =>
      rw [field?_of_not_isPresent present] at found
      cases found

theorem field?_or_empty (head : Value) (name : String) :
    (if head.isPresent then head else .dict []).field? name = head.field? name := by
  cases present : head.isPresent with
  | true => rfl
  | false =>
      rw [field?_of_not_isPresent present]
      rfl

/-- A head says nothing of layers, or it names them. -/
theorem declaredIn_cases {head : Value} {declared : List Int}
    (read : declaredIn head = .ok declared) :
    (declared = [] ∧ ∀ layers, head.field? "layers" = some layers → layers.isPresent = false) ∨
      ∃ layers names orders, head.field? "layers" = some layers ∧ layers.isPresent = true ∧
        layerNames head layers = .ok names ∧ names.mapM orderOf = .ok orders ∧
        declared = orders.foldr insertOrder [] := by
  unfold declaredIn fieldOf at read
  dsimp only at read
  rw [field?_or_empty] at read
  split at read
  · cases found : head.field? "layers" with
    | none =>
        rw [found] at read
        cases read
        exact .inl ⟨rfl, nofun⟩
    | some layers =>
        rw [found, Option.getD_some] at read
        split at read
        · rename_i absent
          cases read
          refine .inl ⟨rfl, ?_⟩
          rintro _ ⟨⟩
          simpa using absent
        · rename_i present
          obtain ⟨names, listed, read⟩ := bind_ok_iff.mp read
          obtain ⟨orders, numbered, read⟩ := bind_ok_iff.mp read
          cases read
          rw [if_pos (isPresent_of_field? found)] at listed
          exact .inr ⟨layers, names, orders, rfl, by simpa using present, listed, numbered, rfl⟩
  · cases read

theorem declaredIn_ok {head : Value} {declared : List Int} (read : declaredIn head = .ok declared) :
    Ascending declared ∧ ∀ order, order ∈ declared ↔ Names head order := by
  rcases declaredIn_cases read with ⟨rfl, silent⟩ |
    ⟨layers, names, orders, found, present, listed, numbered, rfl⟩
  · refine ⟨.nil, fun order => ⟨nofun, ?_⟩⟩
    rintro ⟨layers, names, name, found, present, -⟩
    rw [silent layers found] at present
    cases present
  · refine ⟨foldr_insertOrder_ascending orders, fun order => ?_⟩
    rw [mem_foldr_insertOrder, mem_of_mapM_ok numbered]
    constructor
    · rintro ⟨name, member, numbered⟩
      exact ⟨layers, names, name, found, present, listed, member, (orderOf_ok numbered).2⟩
    · rintro ⟨_, _, name, again, -, listedAgain, member, known⟩
      cases found.symm.trans again
      cases listed.symm.trans listedAgain
      obtain ⟨own, read⟩ := ok_of_mapM_ok numbered member
      cases (orderOf_ok read).2.symm.trans known
      exact ⟨name, member, read⟩

theorem declaredLayers_ok {document : List Char} {declared : List Int}
    (read : declaredLayers document = .ok declared) :
    Ascending declared ∧ ∀ order, order ∈ declared ↔ Declares document order := by
  unfold declaredLayers at read
  split at read
  · rename_i none
    cases read
    exact ⟨.nil, fun order => ⟨nofun, fun ⟨_, _, _, other, _⟩ => nomatch none ▸ other⟩⟩
  · rename_i head rest found
    split at read
    · rename_i value loaded
      obtain ⟨ascending, named⟩ := declaredIn_ok read
      refine ⟨ascending, fun order => (named order).trans ?_⟩
      unfold Declares
      simp [found, loaded]
    · cases read
    · cases read

theorem checkedGraph_ok_iff {declared : List Int} {tasks : List Task} {graph : TaskGraph} :
    checkedGraph declared tasks = .ok graph ↔
      tasks ≠ [] ∧ graphOf declared tasks = .ok graph ∧ graph.IsSound := by
  unfold checkedGraph
  cases tasks with
  | nil => exact ⟨nofun, fun given => absurd rfl given.1⟩
  | cons task tasks =>
      rw [if_neg (by simp), bind_ok_iff]
      constructor
      · rintro ⟨layered, made, checked⟩
        split at checked
        · cases checked
        · rename_i sound
          cases checked
          exact ⟨List.cons_ne_nil task tasks, made, TaskGraph.fault?_eq_none_iff.mp sound⟩
      · rintro ⟨-, made, sound⟩
        exact ⟨graph, made, by rw [TaskGraph.fault?_eq_none_iff.mpr sound]⟩

end TaskList

namespace TaskGraph

open TaskList

/-- What a task graph has to do with the document that it is read from. -/
structure Represents (graph : TaskGraph) (document : String) : Prop where
  filled : graph.tasks ≠ []
  distinct : HasDistinctIds graph.tasks
  /-- Each task is in the layer that its id begins with. -/
  placed : ∀ layer ∈ graph.layers, ∀ task ∈ layer.tasks,
    task.layer = layer.order ∧ IsLayerNumber task.id layer.order
  ascending : (graph.layers.map (·.order)).Pairwise (· < ·)
  /-- If layers are declared, they are the layers of the graph. -/
  declared : (∃ order, Declares document.toList order) →
    ∀ order, Declares document.toList order ↔ order ∈ graph.layers.map (·.order)
  /-- Dependencies are tasks of lower layers. -/
  dependencies : ∀ task ∈ graph.tasks, ∀ id ∈ task.dependsOn,
    ∃ dependency ∈ graph.tasks, dependency.id = id ∧ dependency.layer < task.layer
  /-- Each layer has its tasks in the order of the document. -/
  inOrder : ∀ layer ∈ graph.layers, AppearFrom document.toList 0 layer.tasks

variable {graph : TaskGraph} {document : String}

/-- A graph is read in stages: the declared layers, the tasks, and the graph of both. -/
theorem graph_read (document : String) :
    (TaskGraph.read document).graph = (do
      let declared ← declaredLayers document.toList
      let tasks ← (tasksOf (blocksAfter [] (bodyOf document.toList))).2
      (checkedGraph declared tasks).mapError .tasks) := by
  unfold TaskGraph.read
  dsimp only
  cases declaredLayers document.toList with
  | error fault => rfl
  | ok declared => rfl

theorem read_ok_iff : (TaskGraph.read document).graph = .ok graph ↔
    ∃ declared, declaredLayers document.toList = .ok declared ∧
      ∃ tasks, (tasksOf (blocksAfter [] (bodyOf document.toList))).2 = .ok tasks ∧ tasks ≠ [] ∧
        graphOf declared tasks = .ok graph ∧ graph.IsSound := by
  rw [graph_read]
  simp only [bind_ok_iff, mapError_ok_iff, checkedGraph_ok_iff]

theorem read_filled (accepted : (TaskGraph.read document).graph = .ok graph) :
    graph.tasks ≠ [] := by
  obtain ⟨declared, layers, tasks, -, some, made, -⟩ := read_ok_iff.mp accepted
  obtain ⟨task, member⟩ := List.exists_mem_of_ne_nil tasks some
  have arranged := graphOf_arranged (declaredLayers_ok layers).1 made
  exact List.ne_nil_of_mem (arranged.mem_tasks member)

theorem read_represents (accepted : (TaskGraph.read document).graph = .ok graph) :
    graph.Represents document := by
  obtain ⟨declared, layers, tasks, read, -, made, sound⟩ := read_ok_iff.mp accepted
  obtain ⟨ascending, known⟩ := declaredLayers_ok layers
  have arranged := graphOf_arranged ascending made
  obtain ⟨described, -⟩ := tasksOf_ok read
  have mem_of_layer {layer : Layer} {task : Task} (among : layer ∈ graph.layers)
      (member : task ∈ layer.tasks) : task ∈ tasks ∧ task.layer = layer.order := by
    rw [arranged.gathered layer among] at member
    simpa using member
  constructor
  case filled => exact read_filled accepted
  case distinct => exact sound.distinct
  case placed =>
      intro layer among task member
      obtain ⟨there, same⟩ := mem_of_layer among member
      rw [described] at there
      obtain ⟨block, -, entry⟩ := List.mem_filterMap.mp there
      exact ⟨same, same ▸ entryOf_task (entryOf_of_taskAt? entry)⟩
  case ascending => exact arranged.ascending
  case declared =>
      rintro ⟨first, named⟩ order
      rw [orders_graphOf ascending (List.ne_nil_of_mem ((known first).mpr named)) made, known]
  case dependencies =>
      intro task member id named
      obtain ⟨dependency, among, rfl⟩ := sound.known task member id named
      exact ⟨dependency, among, rfl, sound.layered task member dependency among named⟩
  case inOrder =>
      intro layer among
      rw [arranged.gathered layer among, described]
      exact (appearFrom_document document.toList).filter _

/-! ### A plan of two tasks -/

/-- A plan that declares two layers and describes the task of the upper one first. -/
def layeredPlan : String :=
  "---\nlayers: [data, logic]\n---\n" ++
    "```yaml\nid: '2.1'\naction: modify\nfile: b\ndepends_on: ['1.1']\n```\n" ++
    "```yaml\nid: '1.1'\naction: create\nfile: a\n```\n"

/-- The task of the lower layer. -/
def lowerTask : Task :=
  { id := "1.1", layer := 1, title := "1.1", file := "a", action := .create }

/-- The task of the upper layer, which waits for the other. -/
def upperTask : Task :=
  { id := "2.1", layer := 2, title := "2.1", file := "b", action := .modify, dependsOn := ["1.1"] }

/-- The graph of the two tasks. -/
def layeredGraph : TaskGraph :=
  ⟨[⟨"data", 1, [lowerTask]⟩, ⟨"logic", 2, [upperTask]⟩]⟩

theorem declaredLayers_layeredPlan : declaredLayers layeredPlan.toList = .ok [1, 2] := by
  unfold layeredPlan
  rw [String.toList_append, String.toList_append]
  repeat rw [String.toList_ofList]
  decide +kernel

theorem read_layeredPlan : (TaskGraph.read layeredPlan).graph = .ok layeredGraph := by
  have tasks : (tasksOf (blocksAfter [] (bodyOf layeredPlan.toList))).2 =
      .ok [upperTask, lowerTask] := by
    unfold layeredPlan
    rw [String.toList_append, String.toList_append]
    repeat rw [String.toList_ofList]
    decide +kernel
  have sound : layeredGraph.IsSound := ⟨by decide, by decide, by decide⟩
  exact read_ok_iff.mpr ⟨[1, 2], declaredLayers_layeredPlan, [upperTask, lowerTask], tasks,
    List.cons_ne_nil _ _, rfl, sound⟩

/-- The graph of the two tasks is in order although the plan describes the upper one first. -/
theorem layeredPlan_represented :
    (TaskGraph.read layeredPlan).graph = .ok layeredGraph ∧ Declares layeredPlan.toList 2 ∧
      layeredGraph.Represents layeredPlan :=
  ⟨read_layeredPlan, ((declaredLayers_ok declaredLayers_layeredPlan).2 2).mp (by decide),
    read_represents read_layeredPlan⟩

end TaskGraph

end PlanCycle
