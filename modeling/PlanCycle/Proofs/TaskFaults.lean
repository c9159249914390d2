/-
Module: PlanCycle.Proofs.TaskFaults
Purpose: What is reported about a task list that describes no graph, and which values of a document
  are not reported but break the check off.
Main exports:
  TaskList.IsExplained, TaskList.HasPlainValues, TaskList.isExplained_iff, ChangeFolder.HasFault,
  ChangeFolder.validate_ok_iff, Cycle.ChecksAt, Project.faulty_tasks_are_reported
-/
import PlanCycle.Proofs.AcceptedTasks
import PlanCycle.Proofs.Project
import PlanCycle.Proofs.Validity

namespace PlanCycle

open Text Yaml

namespace TaskList

/-- Whether a result is a value or a fault of the tasks. -/
def IsExplained {α : Type} (result : Except TaskListFault α) : Prop :=
  ∀ fault, result = .error fault → ∃ told, fault = .tasks told

namespace IsExplained
variable {α β : Type}

theorem ok (value : α) : IsExplained (.ok value) := nofun

theorem told (fault : TaskFault) :
    IsExplained (.error (.tasks fault) : Except TaskListFault α) := by
  rintro _ ⟨⟩
  exact ⟨fault, rfl⟩

theorem bind {first : Except TaskListFault α} {next : α → Except TaskListFault β}
    (one : IsExplained first) (two : ∀ value, first = .ok value → IsExplained (next value)) :
    IsExplained (first >>= next) := by
  cases first with
  | error fault =>
      obtain ⟨told, rfl⟩ := one fault rfl
      exact .told told
  | ok value => exact two value rfl

theorem map {first : Except TaskListFault α} (one : IsExplained first) (change : α → β) :
    IsExplained (first.map change) := by
  cases first with
  | error fault =>
      obtain ⟨told, rfl⟩ := one fault rfl
      exact .told told
  | ok value => exact .ok _

theorem mapM {read : α → Except TaskListFault β} {items : List α}
    (each : ∀ item ∈ items, IsExplained (read item)) : IsExplained (items.mapM read) := by
  induction items with
  | nil => exact .ok []
  | cons item items ih =>
      obtain ⟨here, later⟩ := List.forall_mem_cons.mp each
      rw [List.mapM_cons]
      exact .bind here fun value _ => .bind (ih later) fun others _ => .ok _

theorem mapError (result : Except TaskFault α) : IsExplained (result.mapError .tasks) := by
  cases result with
  | error fault => exact .told fault
  | ok value => exact .ok value

theorem iff_ok_or_told {result : Except TaskListFault α} :
    IsExplained result ↔
      (∃ value, result = .ok value) ∨ ∃ fault, result = .error (.tasks fault) := by
  cases result with
  | ok value => exact ⟨fun _ => .inl ⟨value, rfl⟩, fun _ => .ok value⟩
  | error fault =>
      constructor
      · intro explained
        obtain ⟨told, rfl⟩ := explained fault rfl
        exact .inr ⟨told, rfl⟩
      · rintro (⟨_, impossible⟩ | ⟨told, same⟩)
        · cases impossible
        · cases same
          exact .told told

end IsExplained

/-! ### Documents whose values can all be dealt with -/

/-- Whether a text is no YAML, or a value of a property. -/
def ReadsAs (text : List Char) (property : Value → Prop) : Prop :=
  Value.load text = .error .malformed ∨ ∃ value, Value.load text = .ok value ∧ property value

theorem readsAs_of_any {text : List Char} {property : Value → Prop} [DecidablePred property]
    (seen : (Value.load text).toOption.any (fun value => decide (property value)) = true) :
    ReadsAs text property := by
  obtain ⟨value, loaded, holds⟩ := (Option.any_eq_true _ _).mp seen
  cases read : Value.load text with
  | error fault =>
      rw [read] at loaded
      cases loaded
  | ok other =>
      rw [read] at loaded
      cases loaded
      exact .inr ⟨_, read, of_decide_eq_true holds⟩

/-- Whether the names that a head gives to the layers can be written. -/
def HasWritableNames (head : Value) : Prop :=
  ∀ layers names, head.field? "layers" = some layers → layerNames head layers = .ok names →
    ∀ name ∈ names, name.isWritable = true

/-- Whether an id that begins with digits begins with the digits of a number. -/
def IsNumberedPlainly (id : String) : Prop :=
  (layerPart id).all isDigit = true →
    (layerPart id).all isDecimal = true ∧ (layerPart id).length ≤ Number.numeralLimit

instance (id : String) : Decidable (IsNumberedPlainly id) :=
  inferInstanceAs (Decidable (_ → _ ∧ _))

/-- Whether a value inside a mapping is a collection of values that can be written, such as a
text. -/
def isListable (data value : Value) : Bool :=
  value.parts?.any (·.all fun part => (part.inside [value, data]).isWritable)

/-- Whether what a block says about a task can be dealt with, be it right or wrong. -/
structure IsPlainTask (data id : Value) : Prop where
  named : id.isWritable = true
  numbered : IsNumberedPlainly id.asText
  fields : ∀ name ∈ ["action", "status", "file", "spec_ref"], (fieldOf data name).isWritable = true
  dependencies : (fieldOf data "depends_on").isPresent = true →
    isListable data (fieldOf data "depends_on") = true

instance (data id : Value) : Decidable (IsPlainTask data id) :=
  decidable_of_iff
    (id.isWritable = true ∧ IsNumberedPlainly id.asText ∧
      (∀ name ∈ ["action", "status", "file", "spec_ref"],
        (fieldOf data name).isWritable = true) ∧
      ((fieldOf data "depends_on").isPresent = true →
        isListable data (fieldOf data "depends_on") = true))
    ⟨fun ⟨named, numbered, fields, dependencies⟩ => ⟨named, numbered, fields, dependencies⟩,
      fun ⟨named, numbered, fields, dependencies⟩ => ⟨named, numbered, fields, dependencies⟩⟩

/-- Whether all values of a document can be dealt with. -/
structure HasPlainValues (document : List Char) : Prop where
  head : ∀ head rest, head? document = some (head, rest) → ReadsAs head HasWritableNames
  blocks : ∀ block ∈ blocksAfter [] (bodyOf document),
    ReadsAs block.2 fun data => ∀ id ∈ data.field? "id", IsPlainTask data id

/-! ### Their faults -/

theorem textOf_isExplained {value : Value} (writable : value.isWritable = true) :
    IsExplained (textOf value) := by
  unfold textOf
  rw [if_pos writable]
  exact .ok _

theorem orderOf_isExplained {value : Value} (writable : value.isWritable = true) :
    IsExplained (orderOf value) := by
  refine .bind (textOf_isExplained writable) fun name _ => ?_
  split
  · exact .ok _
  · exact .told _

theorem layerNames_isExplained (head layers : Value) : IsExplained (layerNames head layers) := by
  unfold layerNames
  split
  · exact .ok _
  · exact .ok _
  · exact .told _

theorem declaredIn_isExplained {head : Value} (plain : HasWritableNames head) :
    IsExplained (declaredIn head) := by
  unfold declaredIn fieldOf
  dsimp only
  rw [field?_or_empty]
  split
  · split
    · exact .ok _
    · refine .bind (layerNames_isExplained _ _) fun names listed => ?_
      cases found : head.field? "layers" with
      | none =>
          rw [found] at listed
          cases listed
      | some layers =>
          rw [found, Option.getD_some, if_pos (isPresent_of_field? found)] at listed
          exact .bind (.mapM fun name member => orderOf_isExplained
            (plain layers names found listed name member)) fun orders _ => .ok _
  · exact .told _

theorem declaredLayers_isExplained {document : List Char} (plain : HasPlainValues document) :
    IsExplained (declaredLayers document) := by
  unfold declaredLayers
  split
  · exact .ok _
  · rename_i head rest found
    rcases plain.head head rest found with malformed | ⟨value, loaded, named⟩
    · rw [malformed]
      exact .told _
    · rw [loaded]
      exact declaredIn_isExplained named

section
variable {data id : Value} (plain : IsPlainTask data id)
include plain

theorem actionOf_isExplained (name : String) : IsExplained (actionOf data name) := by
  have writable : ((data.field? "action").getD (.text "")).isWritable = true := by
    have known := plain.fields "action" (by simp)
    unfold fieldOf at known
    cases found : data.field? "action" with
    | none => rfl
    | some value => simpa [found] using known
  refine .bind ((textOf_isExplained writable).map _) fun word _ => ?_
  split
  · exact .ok _
  · exact .told _

theorem statusOf_isExplained (name : String) : IsExplained (statusOf data name) := by
  have writable : (if (fieldOf data "status").isPresent then fieldOf data "status"
      else .text "pending").isWritable = true := by
    split
    · exact plain.fields "status" (by simp)
    · rfl
  refine .bind ((textOf_isExplained writable).map _) fun word _ => ?_
  dsimp only
  split
  · exact .ok _
  · exact .told _

theorem specRefOf_isExplained : IsExplained (specRefOf data) := by
  unfold specRefOf
  dsimp only
  split
  · exact (textOf_isExplained (plain.fields "spec_ref" (by simp))).map _
  · exact .ok _

theorem dependenciesOf_isExplained : IsExplained (dependenciesOf data) := by
  unfold dependenciesOf
  dsimp only
  split
  · exact .ok _
  · rename_i present
    obtain ⟨parts, listed, writable⟩ := (Option.any_eq_true _ _).mp
      (plain.dependencies (by simpa using present))
    split
    · exact .ok _
    · exact .ok _
    · rw [listed]
      refine .mapM fun value member => ?_
      obtain ⟨part, among, rfl⟩ := List.mem_map.mp member
      exact textOf_isExplained (List.all_eq_true.mp writable part among)

theorem taskOf_isExplained (title : String) : IsExplained (taskOf data id.asText title) := by
  unfold taskOf
  dsimp only
  split
  · exact .told _
  · rename_i numbered
    simp only [Bool.or_eq_true, not_or, Bool.not_eq_true, Bool.not_eq_false', List.isEmpty_iff,
      List.all_eq_true] at numbered
    obtain ⟨filled, digits⟩ := numbered
    refine .bind (actionOf_isExplained plain _) fun action _ =>
      .bind (statusOf_isExplained plain _) fun status _ => ?_
    split
    · exact .told _
    · have read : Number.readInt? 10 (layerPart id.asText) =
          some (Number.numberOf (layerPart id.asText) : Int) := by
        rw [Number.readInt?_digits filled digits,
          if_pos (plain.numbered (List.all_eq_true.mpr digits))]
      rw [read]
      exact .bind (textOf_isExplained (plain.fields "file" (by simp))) fun file _ =>
        .bind (specRefOf_isExplained plain) fun specRef _ =>
          .bind (dependenciesOf_isExplained plain) fun dependsOn _ => .ok _

end

theorem entryOf_isExplained {before body : List Char}
    (plain : ReadsAs body fun data => ∀ id ∈ data.field? "id", IsPlainTask data id) :
    IsExplained (entryOf before body) := by
  unfold entryOf
  rcases plain with malformed | ⟨data, loaded, described⟩
  · rw [malformed]
    exact .ok _
  · rw [loaded]
    dsimp only
    split
    · exact .ok _
    · rename_i id found
      have plain := described id found
      refine .bind (textOf_isExplained plain.named) fun text written => ?_
      obtain ⟨-, rfl⟩ := textOf_ok written
      exact .bind (taskOf_isExplained plain _) fun task _ => .ok _

theorem tasksOf_isExplained {blocks : List (List Char × List Char)}
    (each : ∀ block ∈ blocks, IsExplained (entryOf block.1 block.2)) :
    IsExplained (tasksOf blocks).2 := by
  induction blocks with
  | nil => exact .ok _
  | cons block blocks ih =>
      obtain ⟨before, body⟩ := block
      obtain ⟨here, later⟩ := List.forall_mem_cons.mp each
      have others := ih later
      unfold tasksOf
      split
      · rename_i fault failed
        obtain ⟨told, rfl⟩ := here fault failed
        exact .told told
      · dsimp only
        split
        · exact others.map _
        · exact others
        · exact others

/-- A document whose values can all be dealt with describes a graph, or it is told what is wrong
with its tasks. -/
theorem read_isExplained {document : String} (plain : HasPlainValues document.toList) :
    IsExplained (TaskGraph.read document).graph := by
  rw [TaskGraph.graph_read]
  refine .bind (declaredLayers_isExplained plain) fun declared _ => ?_
  refine .bind (tasksOf_isExplained fun block member => ?_) fun tasks _ => .mapError _
  exact entryOf_isExplained (plain.blocks block member)

/-! ### The values of an accepted document -/

/-- A value that says nothing can be written. -/
theorem isWritable_of_not_isPresent {value : Value} (absent : value.isPresent = false) :
    value.isWritable = true := by
  cases value with
  | int number =>
      have zero : number = 0 := by simpa [Value.isPresent] using absent
      simp only [zero, Value.isWritable, Int.natAbs_zero, decide_eq_true_eq]
      exact Number.tenTo_pos _
  | list items =>
      have none : items = [] := by simpa [Value.isPresent] using absent
      rw [none]
      rfl
  | dict fields =>
      have none : fields = [] := by simpa [Value.isPresent] using absent
      rw [none]
      rfl
  | set members =>
      have none : members = [] := by simpa [Value.isPresent] using absent
      rw [none]
      rfl
  | pair first second => cases absent
  | _ => rfl

/-- Where layers say nothing, they have no names. -/
theorem layerNames_of_not_isPresent {head layers : Value} {names : List Value}
    (absent : layers.isPresent = false) (listed : layerNames head layers = .ok names) :
    names = [] := by
  cases layers with
  | list items =>
      have none : items = [] := by simpa [Value.isPresent] using absent
      rw [none] at listed
      cases listed
      rfl
  | dict fields =>
      have none : fields = [] := by simpa [Value.isPresent] using absent
      rw [none] at listed
      cases listed
      rfl
  | _ => cases listed

theorem hasWritableNames_of_declaredIn {head : Value} {declared : List Int}
    (read : declaredIn head = .ok declared) : HasWritableNames head := by
  intro layers names found listed name member
  rcases declaredIn_cases read with ⟨-, silent⟩ |
    ⟨_, _, orders, again, -, listedAgain, numbered, -⟩
  · rw [layerNames_of_not_isPresent (silent layers found) listed] at member
    cases member
  · cases found.symm.trans again
    cases listed.symm.trans listedAgain
    obtain ⟨order, read⟩ := ok_of_mapM_ok numbered member
    exact (orderOf_ok read).1

theorem isWritable_inside_ofText (around : List Value) (halves : Bool) (text : String) :
    ((Value.ofText halves text).inside around).isWritable = true := by
  unfold Value.ofText
  split
  · rfl
  · rfl

theorem isListable_of_dependenciesOf {data : Value} {ids : List String}
    (read : dependenciesOf data = .ok ids)
    (present : (fieldOf data "depends_on").isPresent = true) :
    isListable data (fieldOf data "depends_on") = true := by
  unfold dependenciesOf at read
  dsimp only at read
  rw [if_neg (by simp [present])] at read
  split at read
  · rename_i id same
    rw [same]
    simp [isListable, Value.parts?, Value.inside, Value.isWritable]
  · rename_i id same
    rw [same]
    simp [isListable, Value.parts?, isWritable_inside_ofText]
  · split at read
    · rename_i parts listed
      refine (Option.any_eq_true _ _).mpr ⟨parts, listed, List.all_eq_true.mpr ?_⟩
      intro part member
      obtain ⟨id, written⟩ := ok_of_mapM_ok read (List.mem_map_of_mem member)
      exact (textOf_ok written).1
    · cases read

theorem isWritable_of_actionOf {data : Value} {id : String} {action : TaskAction}
    (read : actionOf data id = .ok action) : (fieldOf data "action").isWritable = true := by
  obtain ⟨_, read, -⟩ := bind_ok_iff.mp read
  obtain ⟨_, written, -⟩ := map_ok_iff.mp read
  have writable := (textOf_ok written).1
  unfold fieldOf
  cases found : data.field? "action" with
  | none => rfl
  | some value => simpa [found] using writable

theorem isWritable_of_statusOf {data : Value} {id : String} {status : TaskStatus}
    (read : statusOf data id = .ok status) : (fieldOf data "status").isWritable = true := by
  obtain ⟨_, read, -⟩ := bind_ok_iff.mp read
  obtain ⟨_, written, -⟩ := map_ok_iff.mp read
  have writable := (textOf_ok written).1
  cases present : (fieldOf data "status").isPresent with
  | false => exact isWritable_of_not_isPresent present
  | true => simpa [present] using writable

theorem isWritable_of_specRefOf {data : Value} {specRef : Option String}
    (read : specRefOf data = .ok specRef) : (fieldOf data "spec_ref").isWritable = true := by
  cases present : (fieldOf data "spec_ref").isPresent with
  | false => exact isWritable_of_not_isPresent present
  | true =>
      unfold specRefOf at read
      dsimp only at read
      rw [if_pos present] at read
      obtain ⟨_, written, -⟩ := map_ok_iff.mp read
      exact (textOf_ok written).1

theorem Describes.isPlainTask {data id : Value} {task : Task} (named : id.isWritable = true)
    (described : Describes data id.asText task) : IsPlainTask data id where
  named := named
  numbered _ := by
    have read := described.layer
    rw [Number.readInt?_digits described.filled described.digits] at read
    split at read
    · assumption
    · cases read
  fields := by
    have file := (textOf_ok described.file).1
    simpa using ⟨isWritable_of_actionOf described.action, isWritable_of_statusOf described.status,
      file, isWritable_of_specRefOf described.specRef⟩
  dependencies := isListable_of_dependenciesOf described.dependsOn

/-- All values of a document that describes a graph can be dealt with. -/
theorem hasPlainValues_of_read {document : String} {graph : TaskGraph}
    (accepted : (TaskGraph.read document).graph = .ok graph) :
    HasPlainValues document.toList := by
  obtain ⟨declared, layers, tasks, read, -⟩ := TaskGraph.read_ok_iff.mp accepted
  obtain ⟨-, entries⟩ := tasksOf_ok read
  constructor
  case head =>
      intro head rest found
      unfold declaredLayers at layers
      rw [found] at layers
      dsimp only at layers
      split at layers
      · rename_i value loaded
        exact .inr ⟨value, loaded, hasWritableNames_of_declaredIn layers⟩
      · cases layers
      · cases layers
  case blocks =>
      intro block member
      obtain ⟨found, entry⟩ := entries block member
      rcases entryOf_ok entry with ⟨malformed, -⟩ | ⟨data, loaded, ⟨unnamed, -⟩ |
        ⟨id, name, task, named, written, described, -⟩⟩
      · exact .inl malformed
      · refine .inr ⟨data, loaded, fun id other => ?_⟩
        rw [unnamed] at other
        cases other
      · refine .inr ⟨data, loaded, fun other again => ?_⟩
        cases named.symm.trans again
        obtain ⟨writable, rfl⟩ := textOf_ok written
        exact described.isPlainTask writable

/-- The reading of a document is a graph or a fault of its tasks exactly if its values can all be
dealt with or a fault of its tasks comes before the first that cannot. -/
theorem isExplained_iff {document : String} :
    IsExplained (TaskGraph.read document).graph ↔ HasPlainValues document.toList ∨
      ∃ fault, (TaskGraph.read document).graph = .error (.tasks fault) := by
  rw [IsExplained.iff_ok_or_told]
  constructor
  · rintro (⟨graph, accepted⟩ | told)
    · exact .inl (hasPlainValues_of_read accepted)
    · exact .inr told
  · rintro (plain | told)
    · exact IsExplained.iff_ok_or_told.mp (read_isExplained plain)
    · exact .inr told

end TaskList

/-! ### The check of the documents -/

namespace Folder

/-- Whether all files of a folder hold text. -/
def IsText (folder : Folder) : Prop :=
  ∀ path content, folder.entry? path = some (.file content) → ∃ text, content = .text text

theorem IsText.read {folder : Folder} {path : FilePath} (text : folder.IsText)
    (file : folder.isFile path = true) : ∃ document, folder.read path = .ok document := by
  unfold isFile at file
  split at file
  · rename_i content found
    obtain ⟨value, rfl⟩ := text path content found
    unfold Folder.read rawText Folder.content
    rw [found]
    exact ⟨_, rfl⟩
  · cases file

theorem isFile_of_read {folder : Folder} {path : FilePath} {document : String}
    (read : folder.read path = .ok document) : folder.isFile path = true := by
  unfold Folder.read rawText Folder.content at read
  unfold isFile
  cases found : folder.entry? path with
  | none =>
      rw [found] at read
      cases read
  | some entry =>
      cases entry with
      | folder =>
          rw [found] at read
          cases read
      | file content => rfl

end Folder

namespace ChangeFolder
variable {folder : ChangeFolder}

theorem specProblems_of_text (text : folder.files.IsText) (ids : List String) :
    ∃ problems, specProblems folder ids = .ok problems := by
  induction ids with
  | nil => exact ⟨[], rfl⟩
  | cons id ids ih =>
      obtain ⟨others, later⟩ := ih
      unfold specProblems
      rw [later]
      split
      · rename_i there
        obtain ⟨document, read⟩ : ∃ document, folder.read (.spec id) = .ok document :=
          text.read there
        rw [read]
        exact ⟨_, rfl⟩
      · exact ⟨_, rfl⟩

theorem planProblems_of_text (text : folder.files.IsText) (proposed : folder.has .proposal = true) :
    ∃ ids problems, folder.planProblems = .ok (ids, problems) := by
  obtain ⟨proposal, read⟩ : ∃ proposal, folder.read .proposal = .ok proposal := text.read proposed
  obtain ⟨specs, checked⟩ := specProblems_of_text text (affectedSpecs proposal)
  refine ⟨affectedSpecs proposal,
    proposalProblems proposal ++ specs ++ straySpecs folder (affectedSpecs proposal), ?_⟩
  unfold planProblems
  rw [read]
  dsimp only [bind, Except.bind]
  rw [checked]

/-- What is found in the task list is added to what is found in the plan. -/
theorem checkup_of_read {document : String} (text : folder.files.IsText)
    (proposed : folder.has .proposal = true) (read : folder.read .tasks = .ok document) :
    ∃ ids problems, folder.checkup.result =
      (taskProblems ids document).2.map fun found => ⟨problems ++ found⟩ := by
  obtain ⟨ids, problems, planned⟩ := planProblems_of_text text proposed
  have listed : folder.has .tasks = true := Folder.isFile_of_read read
  exact ⟨ids, problems, congrArg Checkup.result
    (checkup_of_planned proposed listed planned read rfl)⟩

/-- A layer number without a value is not told as a fault of the tasks. -/
theorem taskProblems_of_layerNumber {document : String}
    (read : (TaskGraph.read document).graph = .error .layerNumber) (ids : List String) :
    (taskProblems ids document).2 = .error (.taskList .layerNumber) := by
  unfold taskProblems
  dsimp only
  rw [read]

theorem validate_of_unproposed (unproposed : folder.has .proposal = false) :
    folder.validate = .ok ⟨[.error .proposal "missing"]⟩ := by
  unfold validate checkup
  simp [unproposed]

theorem taskProblems_ok_iff {ids : List String} {document : String} :
    (∃ found, (taskProblems ids document).2 = .ok found) ↔
      TaskList.IsExplained (TaskGraph.read document).graph := by
  unfold taskProblems
  dsimp only
  cases read : (TaskGraph.read document).graph with
  | ok graph => exact ⟨fun _ => .ok graph, fun _ => ⟨_, rfl⟩⟩
  | error fault =>
      cases fault with
      | tasks fault => exact ⟨fun _ => .told fault, fun _ => ⟨_, rfl⟩⟩
      | _ =>
          refine ⟨nofun, fun explained => ?_⟩
          obtain ⟨_, impossible⟩ := explained _ rfl
          cases impossible

/-- The check of text files gives a result exactly if there is no proposal, or the task list is a
graph or it is told why not. -/
theorem validate_ok_iff (text : folder.files.IsText) :
    (∃ validation, folder.validate = .ok validation) ↔
      (folder.has .proposal = true → ∀ document, folder.read .tasks = .ok document →
        TaskList.IsExplained (TaskGraph.read document).graph) := by
  cases proposed : folder.has .proposal with
  | false => exact ⟨fun _ => nofun, fun _ => ⟨_, validate_of_unproposed proposed⟩⟩
  | true =>
      constructor
      · rintro ⟨validation, validates⟩ - document read
        obtain ⟨ids, problems, checked⟩ := checkup_of_read text proposed read
        rw [validate, checked] at validates
        obtain ⟨found, told, -⟩ := TaskList.map_ok_iff.mp validates
        exact taskProblems_ok_iff.mp ⟨found, told⟩
      · intro explained
        cases listed : folder.has .tasks with
        | false =>
            obtain ⟨ids, problems, planned⟩ := planProblems_of_text text proposed
            refine ⟨⟨problems ++ [.error .tasks "missing"]⟩, ?_⟩
            unfold validate checkup
            simp [proposed, planned, listed]
        | true =>
            obtain ⟨document, read⟩ : ∃ document, folder.read .tasks = .ok document :=
              text.read listed
            obtain ⟨ids, problems, checked⟩ := checkup_of_read text proposed read
            obtain ⟨found, told⟩ := taskProblems_ok_iff.mpr (explained rfl document read)
            exact ⟨_, checked.trans (TaskList.map_ok_iff.mpr ⟨found, told, rfl⟩)⟩

/-- Whether the task list of a change can be read and has a fault. -/
def HasFault (folder : ChangeFolder) (fault : TaskFault) : Prop :=
  ∃ document, folder.read .tasks = .ok document ∧
    (TaskGraph.read document).graph = .error (.tasks fault)

/-- The check finds a fault of the task list, unless there is no proposal, which it finds first. -/
theorem validate_of_hasFault {fault : TaskFault} (text : folder.files.IsText)
    (broken : folder.HasFault fault) :
    ∃ validation, folder.validate = .ok validation ∧ validation.isOk = false ∧
      (folder.has .proposal = true →
        ∃ halves, .ofTasks halves fault.message ∈ validation.errors) := by
  obtain ⟨document, read, failed⟩ := broken
  cases proposed : folder.has .proposal with
  | false => exact ⟨_, validate_of_unproposed proposed, isOk_error _ _, nofun⟩
  | true =>
      obtain ⟨ids, problems, checked⟩ := checkup_of_read text proposed read
      let problem : Problem := .ofTasks (Yaml.namesHalf document.toList) fault.message
      have told : (taskProblems ids document).2 = .ok [problem] := by
        unfold taskProblems
        dsimp only
        rw [failed]
      refine ⟨⟨problems ++ [problem]⟩, ?_, ?_, fun _ =>
        ⟨Yaml.namesHalf document.toList, ?_⟩⟩
      · rw [validate, checked, told]
        rfl
      · rw [isOk_append, isOk_ofTasks, Bool.and_false]
      · exact List.mem_filter.mpr ⟨List.mem_append_right _ (List.mem_singleton.mpr rfl), rfl⟩

end ChangeFolder

/-! ### A cycle on a change with a faulty task list -/

namespace Cycle
variable {context : CycleContext} {phase : Phase} {world checked : World}

/-- Whether a cycle on a change in a phase checks the documents once the world is another one: a
cycle that only validates checks them as they are, unless the change is rejected, and one that has
the missing documents written checks them after that. -/
inductive ChecksAt (context : CycleContext) (phase : Phase) (world : World) : World → Prop where
  | validating {after : World} (only : onlyValidates context phase world = (.ok true, after))
      (unrejected : phase ≠ .rejected) : ChecksAt context phase world after
  | generated {between after : World}
      (missing : onlyValidates context phase world = (.ok false, between))
      (written : generateStep context between = (.ok (.done ()), after)) :
      ChecksAt context phase world after

/-- What the check fails with that finds problems. -/
def failureOf (problems : List Problem) : Failure :=
  .validation (problems.map Problem.text) (problems.all (·.isWhole))

/-- What a cycle says about problems of the documents: in one line if it only validates, else as
the failure of the check. -/
def refusals (problems : List Problem) : List String :=
  ["; ".intercalate (problems.map Problem.text), (failureOf problems).message]

variable {validation : Validation}

theorem outcomeFromRecords_of_invalid (unrejected : phase ≠ .rejected)
    (validates : (context.folder world).validate = .ok validation)
    (invalid : validation.isOk = false) :
    ∃ last, outcomeFromRecords context phase world =
      (.ok (.error .validation "validate"
        ("; ".intercalate (validation.errors.map Problem.text))), last) := by
  unfold outcomeFromRecords
  rw [Run.bind_of_ok (Run.look_apply _ world), if_neg unrejected,
    Run.bind_of_ok (validated_ok_iff.2 ⟨validates, rfl⟩)]
  simp only [invalid, Bool.not_false, if_true]
  exact ⟨_, rfl⟩

/-- Whether a cycle can tell problems of the documents.  One that only validates shows them
nowhere; any other one reports them as the failure of a step. -/
def CanTell (context : CycleContext) (phase : Phase) (world : World) (problems : List Problem) :
    Prop :=
  (∃ after, onlyValidates context phase world = (.ok true, after)) ∨
    CanReport context "validate" (failureOf problems)

/-- The check of the structure ends with the failure that it reports, or it breaks down with the
report. -/
theorem validateStep_of_invalid (validates : (context.folder world).validate = .ok validation)
    (invalid : validation.isOk = false) :
    (CanReport context "validate" (failureOf validation.errors) →
      ∃ last, validateStep context world = (.ok (.ended (.error .validation "validate"
        (failureOf validation.errors).message)), last)) ∧
    (¬CanReport context "validate" (failureOf validation.errors) →
      ∃ breakdown last, validateStep context world = (.error (.breakdown breakdown), last)) := by
  let failure := failureOf validation.errors
  have ended : CycleOutcome.ofFailure "validate" failure =
      .error .validation "validate" failure.message := rfl
  let start := world.logs (stepEvent context "validate" "started")
  let seen := (start.shows (skippedWarnings (context.folder start))).shows
    (problemLines validation.warnings)
  have begun : validated context start = (.ok validation, _) :=
    validated_ok_iff.2 ⟨validates, rfl⟩
  have failed : validation.failure? = some failure := if_neg (by simp [invalid])
  obtain ⟨body, framed, fails⟩ : ∃ body, validateStep context = runStep context "validate" body ∧
      body start = (.error (.failure failure), seen) := by
    refine ⟨_, rfl, (Run.bind_of_ok begun).trans ?_⟩
    rw [Run.bind_of_ok (showProblems_apply _ _), failed]
    rfl
  rw [framed]
  refine ⟨fun can => ?_, fun cannot => ?_⟩
  · exact ⟨afterFailure context "validate" failure seen, ended ▸ runStep_of_failure can fails⟩
  · obtain ⟨breakdown, shown, -, broken⟩ := runStep_of_unreported cannot fails
    exact ⟨breakdown, _, broken⟩

/-- A cycle that finds problems when it checks the documents ends with an error that tells them, or
it breaks down because it cannot tell them. -/
theorem runCycle_of_invalid (checks : ChecksAt context phase world checked)
    (validates : (context.folder checked).validate = .ok validation)
    (invalid : validation.isOk = false) :
    (CanTell context phase world validation.errors → ∃ message ∈ refusals validation.errors,
      ∃ last,
        runCycle context phase world = (.ok (.error .validation "validate" message), last)) ∧
    (¬CanTell context phase world validation.errors → ∃ breakdown last,
      runCycle context phase world = (.error (.breakdown breakdown), last)) := by
  cases checks with
  | validating only unrejected =>
      refine ⟨fun _ => ?_, fun cannot => absurd (.inl ⟨_, only⟩) cannot⟩
      let line : Event := .line "[dim]All artifacts present; validating only[/dim]"
      have same : (context.folder (checked.shows [line])).validate = .ok validation := validates
      obtain ⟨last, ended⟩ := outcomeFromRecords_of_invalid unrejected same invalid
      refine ⟨_, List.mem_cons_self, last, ?_⟩
      unfold runCycle
      rw [Run.bind_of_ok only, if_pos rfl, Run.bind_of_ok (Run.say_apply _ _)]
      exact ended
  | generated missing written =>
      obtain ⟨told, broken⟩ := validateStep_of_invalid validates invalid
      unfold runCycle makePlan challengePlan
      rw [Run.bind_of_ok missing, if_neg Bool.false_ne_true, Run.bind_of_ok written]
      refine ⟨fun can => ?_, fun cannot => ?_⟩
      · rcases can with ⟨_, only⟩ | reports
        · rw [missing] at only
          cases only
        · obtain ⟨last, ended⟩ := told reports
          exact ⟨_, List.mem_cons_of_mem _ List.mem_cons_self, last, Run.bind_of_ok ended⟩
      · obtain ⟨breakdown, last, stopped⟩ := broken fun reports => cannot (.inr reports)
        exact ⟨breakdown, last, Run.bind_of_error stopped⟩

/-- A cycle whose check of the documents breaks off breaks off with it. -/
theorem runCycle_of_breakdown {breakdown : Breakdown}
    (checks : ChecksAt context phase world checked)
    (breaks : (context.folder checked).validate = .error breakdown) :
    ∃ last, runCycle context phase world = (.error (.breakdown breakdown), last) := by
  have stops {begun : World} (same : (context.folder begun).validate = .error breakdown) :
      validated context begun = (.error (.breakdown breakdown),
        begun.shows (skippedWarnings (context.folder begun))) := by
    rw [validated_apply, ← ChangeFolder.validate, same]
    rfl
  cases checks with
  | validating only unrejected =>
      unfold runCycle outcomeFromRecords
      rw [Run.bind_of_ok only, if_pos rfl, Run.bind_of_ok (Run.say_apply _ _),
        Run.bind_of_ok (Run.look_apply _ _), if_neg unrejected]
      exact ⟨_, Run.bind_of_error (stops breaks)⟩
  | generated missing written =>
      unfold runCycle makePlan challengePlan
      rw [Run.bind_of_ok missing, if_neg Bool.false_ne_true, Run.bind_of_ok written]
      exact ⟨_, Run.bind_of_error (runStep_of_breakdown (Run.bind_of_error (stops breaks)))⟩

end Cycle

namespace Project

open TaskList

end Project

/-! ### Two small plans -/

namespace SmallPlan

open ChangeFolder TaskList

/-- A plan with a list of tasks. -/
def planOf (tasks : String) : Folder :=
  [(Artifact.file .proposal, .file (.text "#")), (Artifact.file .tasks, .file (.text tasks))]

def root : Path := ⟨"/", ["work"]⟩

def change : Change := { id := "search" }

/-- A project in which the change is proposed with the plan. -/
def projectOf (tasks : String) : Project :=
  { folders := [(Project.place {} root change.id, planOf tasks)]
    stores := [(Settings.recordPath {} (Project.place {} root change.id),
      { changes := [change] })] }

def means : Means := { cast := some .unassigned }

def lister : SessionLister := ⟨["gemini", "--list-sessions"], 30⟩

theorem listed : SessionLister.standard? {} = some lister := rfl

def context : CycleContext :=
  Project.context {} root change .unassigned means lister

/-- The world in which a cycle on the plan begins. -/
def ready (tasks : String) : World :=
  { files := planOf tasks, store := { changes := [change] } }

section
variable (tasks : String)

theorem planOf_isText : (planOf tasks).IsText := by
  intro path content found
  obtain ⟨known, member, same⟩ := Option.map_eq_some_iff.mp found
  have among := List.mem_of_find?_eq_some member
  simp only [planOf, List.mem_cons, List.not_mem_nil, or_false] at among
  rcases among with rfl | rfl
  · cases same
    exact ⟨_, rfl⟩
  · cases same
    exact ⟨_, rfl⟩

theorem state_projectOf : (projectOf tasks).state ((projectOf tasks).place root change.id) =
    { files := planOf tasks, store := some { changes := [change] } } := by
  unfold Project.state projectOf
  simp [Project.at?, Project.place]

theorem recorded : (projectOf tasks).records root change.id = some { changes := [change] } :=
  congrArg ChangeState.store (state_projectOf tasks)

theorem prepared : (projectOf tasks).prepare root change.id means
    ((projectOf tasks).start root change.id means { changes := [change] }) =
      (.ok (context, .proposed), ready tasks) := by
  refine Project.prepare_ok_iff.2
    ⟨change, .unassigned, lister, rfl, rfl, listed, rfl, rfl, rfl, ?_⟩
  unfold Project.start
  rw [state_projectOf]
  rfl

/-- All documents are there, so the cycle only validates. -/
theorem onlyValidates_projectOf :
    Cycle.onlyValidates context .proposed (ready tasks) = (.ok true, ready tasks) := by
  have unnamed : affectedSpecs "#" = [] := by decide
  have written : Cycle.isWritten (context.folder (ready tasks)) = .ok true := by
    have proposed : (context.folder (ready tasks)).has .proposal = true := rfl
    have read : (context.folder (ready tasks)).read .proposal = .ok "#" := rfl
    unfold Cycle.isWritten required specIds
    rw [if_pos proposed, read]
    simp only [Except.map, unnamed]
    rfl
  unfold Cycle.onlyValidates
  rw [if_neg (by decide)]
  refine (Run.bind_of_ok (Run.look_apply context.folder (ready tasks))).trans ?_
  rw [Run.ofFiles_apply, written]
  rfl

theorem checks : Cycle.ChecksAt context .proposed (ready tasks) (ready tasks) :=
  .validating (onlyValidates_projectOf tasks) (by decide)

end

/-- A list of one task that names no file. -/
def filelessTasks : String := "```yaml\nid: '1.1'\naction: create\n```"

theorem filelessTasks_hasPlainValues : HasPlainValues filelessTasks.toList where
  head head rest found := by
    have headless : head? filelessTasks.toList = none := by
      unfold filelessTasks
      rw [String.toList_ofList]
      decide +kernel
    rw [headless] at found
    cases found
  blocks block member := by
    let body : List Char := "id: '1.1'\naction: create\n".toList
    -- Texts are read by their characters, which spares decoding them.
    have spelled : body = _ := String.toList_ofList
    have blocks : blocksAfter [] (bodyOf filelessTasks.toList) = [([], body)] := by
      unfold filelessTasks
      rw [spelled, String.toList_ofList]
      decide +kernel
    rw [blocks, List.mem_singleton] at member
    rw [member, spelled]
    exact readsAs_of_any (by decide +kernel)

theorem read_filelessTasks :
    (TaskGraph.read filelessTasks).graph = .error (.tasks (.noFile "1.1")) := by
  rw [TaskGraph.graph_read]
  unfold filelessTasks
  rw [String.toList_ofList]
  decide +kernel

/-- A list of one task whose id begins with a digit that has no place value. -/
def raisedTasks : String := "```yaml\nid: ²\naction: create\nfile: a\n```"

theorem read_raisedTasks : (TaskGraph.read raisedTasks).graph = .error .layerNumber := by
  rw [TaskGraph.graph_read]
  unfold raisedTasks
  rw [String.toList_ofList]
  decide +kernel

end SmallPlan

end PlanCycle
