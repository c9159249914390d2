/-
Module: PlanCycle.Proofs.CompletePlan
Purpose: When the check of the documents finds no error, said of the documents alone, and that files
  which the proposal does not name have no part in it.
Main exports:
  RefersTo, ChangeFolder.CompletePlan, ChangeFolder.IsStray, ChangeFolder.no_error_iff_complete
-/
import PlanCycle.Proofs.Lines
import PlanCycle.Proofs.SpecNames
import PlanCycle.Proofs.TaskFaults

namespace PlanCycle

open Text

/-! ### Texts with something in them -/

namespace Text

/-- Whether a text holds more than blanks. -/
def IsVisible (text : String) : Prop :=
  ∃ c ∈ text.toList, isBlank c = false

theorem isVisible_iff {text : String} : IsVisible text ↔ isBlankText text.toList = false := by
  unfold IsVisible isBlankText
  rw [List.all_eq_false]
  simp

/-- Blanks after a text do not count once it is trimmed. -/
theorem trim_append_blank {tail : List Char} (blank : ∀ c ∈ tail, isBlank c = true)
    (text : List Char) : trim (text ++ tail) = trim text := by
  unfold trim trimOf
  change trimEnd (dropBlank (text ++ tail)) = trimEnd (dropBlank text)
  cases begins : dropBlank text with
  | nil =>
      rw [dropBlank_append_of_blank begins]
      exact (trim_eq_nil_iff.mpr blank : trim tail = [])
  | cons c more => rw [dropBlank_append_of_visible begins, trimEnd_append blank]

end Text

/-! ### What a reference means -/

/-- Which spec a reference of a task means.  What stands before its first number sign is an id, in
which the name of the folder and the ending of the file may be written too, with blanks around
it. -/
inductive RefersTo (reference spec : String) : Prop where
  | cut {lead core tail anchor name : List Char}
      (whole : reference.toList = lead ++ core ++ tail ++ anchor)
      (unanchored : '#' ∉ lead ++ core ++ tail)
      (anchored : anchor = [] ∨ anchor.head? = some '#')
      (blank : ∀ c ∈ lead ++ tail, isBlank c = true)
      (trimmed : trim core = core)
      (named : IsWithoutStart "specs/".toList core name)
      (bare : IsWithoutEnding ".md".toList name spec.toList)

/-- Every reference means exactly one spec. -/
theorem refersTo_iff {reference spec : String} :
    RefersTo reference spec ↔ referencedSpec reference = spec := by
  constructor
  · rintro ⟨whole, unanchored, anchored, blank, trimmed, named, bare⟩
    rename_i lead core tail anchor name
    have before : ∀ c ∈ lead ++ core ++ tail, (c != '#') = true := by
      intro c member
      simp only [bne_iff_ne, ne_eq]
      rintro rfl
      exact unanchored member
    have stops : anchor.takeWhile (· != '#') = [] := by
      rcases anchored with rfl | sign
      · rfl
      · obtain ⟨rest, rfl⟩ := List.head?_eq_some_iff.mp sign
        rfl
    have part : reference.toList.takeWhile (· != '#') = lead ++ core ++ tail := by
      rw [whole, List.takeWhile_append_of_pos before, stops, List.append_nil]
    have cut : trim (lead ++ core ++ tail) = core := by
      rw [List.append_assoc, trim_append fun c member => blank c (List.mem_append_left _ member),
        trim_append_blank (fun c member => blank c (List.mem_append_right _ member)), trimmed]
    unfold referencedSpec
    rw [part, cut]
    have folder : dropBeginning Artifact.specStart.toList core = name :=
      dropBeginning_eq_iff.mpr named
    have ending : dropEnding ".md".toList name = spec.toList := dropEnding_eq_iff.mpr bare
    dsimp only
    rw [folder, ending, String.ofList_toList]
  · rintro rfl
    let part := reference.toList.takeWhile (· != '#')
    obtain ⟨tail, blank, ends⟩ := exists_trimEnd (dropBlank part)
    have begins : part = part.takeWhile isBlank ++ dropBlank part :=
      (List.takeWhile_append_dropWhile (p := isBlank)).symm
    have cut : part.takeWhile isBlank ++ trim part ++ tail = part := by
      rw [List.append_assoc, show trim part = trimEnd (dropBlank part) from rfl, ← ends, ← begins]
    have unanchored : '#' ∉ part := fun member => by
      have other := List.all_eq_true.mp (List.all_takeWhile (l := reference.toList)) '#' member
      simp at other
    have whole : reference.toList = part.takeWhile isBlank ++ trim part ++ tail ++
        reference.toList.dropWhile (· != '#') := by
      rw [cut]
      exact List.takeWhile_append_dropWhile.symm
    refine .cut whole ?_ ?_ ?_ (trim_trim part)
      (dropBeginning_eq_iff.mp rfl) (dropEnding_eq_iff.mp ?_)
    · rw [cut]
      exact unanchored
    · cases found : reference.toList.dropWhile (· != '#') with
      | nil => exact .inl rfl
      | cons c rest =>
          have first := List.head?_dropWhile_not (· != '#') reference.toList
          rw [found] at first
          exact .inr (by simpa using first)
    · intro c member
      rcases List.mem_append.mp member with before | after
      · exact List.all_eq_true.mp List.all_takeWhile c before
      · exact blank c after
    · exact String.toList_ofList.symm

namespace ChangeFolder
variable {folder : ChangeFolder}

/-! ### Complete plans -/

/-- Whether the documents of a change are a complete plan: a proposal that is not blank and has a
heading, a text for each spec that it names, and a list of tasks that refer to these specs alone. -/
structure CompletePlan (folder : ChangeFolder) (proposal : String) (graph : TaskGraph) : Prop where
  proposed : folder.read .proposal = .ok proposal
  visible : IsVisible proposal
  headed : ∃ line ∈ splitLines proposal.toList, line.head? = some '#'
  specified : ∀ id ∈ affectedSpecs proposal,
    ∃ text, folder.read (.spec id) = .ok text ∧ IsVisible text
  listed : ∃ document, folder.read .tasks = .ok document ∧
    (TaskGraph.read document).graph = .ok graph
  referring : ∀ task ∈ graph.tasks, ∀ reference, task.specRef = some reference →
    ∃ spec, RefersTo reference spec ∧ (spec = "" ∨ spec ∈ affectedSpecs proposal)

theorem isOk_iff {problems : List Problem} :
    Validation.isOk ⟨problems⟩ = true ↔ ∀ problem ∈ problems, problem.level ≠ .error := by
  simp [Validation.isOk, Validation.errors]

theorem isOk_proposalProblems {proposal : String} :
    Validation.isOk ⟨proposalProblems proposal⟩ = true ↔
      IsVisible proposal ∧ ∃ line ∈ splitLines proposal.toList, line.head? = some '#' := by
  have headed : hasHeading proposal = true ↔
      ∃ line ∈ splitLines proposal.toList, line.head? = some '#' := by
    simp [hasHeading]
  rw [isVisible_iff, ← headed]
  unfold proposalProblems
  split
  · rename_i blank
    simp [blank, isOk_error]
  · rename_i visible
    split
    · rename_i found
      simp [visible, found, isOk_iff]
    · rename_i plain
      simp [plain, isOk_error]

/-- Specs have no problem exactly if each of them has a text. -/
theorem isOk_specProblems {ids : List String} {problems : List Problem}
    (checked : specProblems folder ids = .ok problems) :
    Validation.isOk ⟨problems⟩ = true ↔
      ∀ id ∈ ids, ∃ text, folder.read (.spec id) = .ok text ∧ IsVisible text := by
  induction ids generalizing problems with
  | nil =>
      cases checked
      simp [isOk_iff]
  | cons id ids ih =>
      obtain ⟨more, others, ⟨missing, rfl⟩ | ⟨text, -, read, rfl⟩⟩ := specProblems_cons checked
      · have unread (text : String) : folder.read (.spec id) ≠ .ok text := fun read => by
          rw [has, Folder.isFile_of_read read] at missing
          cases missing
        rw [isOk_append, isOk_error, List.forall_mem_cons]
        simp [unread]
      · rw [isOk_append, Bool.and_eq_true, ih others, List.forall_mem_cons]
        refine and_congr_left fun _ => ?_
        simp only [read, Except.ok.injEq, exists_eq_left', isVisible_iff]
        cases isBlankText text.toList with
        | false => simp [isOk_iff]
        | true => simp [isOk_error]

theorem isOk_referenceProblems {ids : List String} {halves : Bool} {graph : TaskGraph} :
    Validation.isOk ⟨referenceProblems ids halves graph⟩ = true ↔
      ∀ task ∈ graph.tasks, ∀ reference, task.specRef = some reference →
        ∃ spec, RefersTo reference spec ∧ (spec = "" ∨ spec ∈ ids) := by
  have empty : referencedSpec "" = "" := rfl
  rw [isOk_iff]
  unfold referenceProblems
  simp only [List.mem_filterMap, refersTo_iff, exists_eq_left']
  constructor
  · intro fine task member reference refers
    by_contra unknown
    rw [not_or] at unknown
    have visible : reference ≠ "" := by
      rintro rfl
      exact unknown.1 empty
    refine fine (.ofTasks halves ("task " ++ task.id ++ " references unknown spec " ++
      if halves then quotedHalves reference else quoted reference)) ⟨task, member, ?_⟩ rfl
    simp [refers, visible, unknown.1, unknown.2]
  · rintro known problem ⟨task, member, told⟩
    obtain ⟨reference, refers, told⟩ := Option.bind_eq_some_iff.mp told
    have found := known task member reference refers
    rw [if_pos (by simpa [or_assoc] using Or.inr found)] at told
    cases told

/-- A task list has no problem exactly if it is a graph whose tasks refer to the specs. -/
theorem isOk_taskProblems {ids : List String} {document : String} {problems : List Problem}
    (checked : (taskProblems ids document).2 = .ok problems) :
    Validation.isOk ⟨problems⟩ = true ↔
      ∃ graph, (TaskGraph.read document).graph = .ok graph ∧
        ∀ task ∈ graph.tasks, ∀ reference, task.specRef = some reference →
          ∃ spec, RefersTo reference spec ∧ (spec = "" ∨ spec ∈ ids) := by
  unfold taskProblems at checked
  dsimp only at checked
  cases read : (TaskGraph.read document).graph with
  | ok graph =>
      rw [read] at checked
      cases checked
      simp [isOk_referenceProblems]
  | error fault =>
      rw [read] at checked
      cases fault with
      | tasks fault =>
          cases checked
          simp [isOk_ofTasks]
      | _ => cases checked

/-- The check finds nothing that makes a change invalid exactly if its documents are a complete
plan. -/
theorem isValid_iff_complete (text : folder.files.IsText) :
    folder.IsValid ↔ ∃ proposal graph, folder.CompletePlan proposal graph := by
  rw [isValid_iff]
  constructor
  · rintro ⟨-, -, proposal, document, specs, found, proposed, tasks, specified, listed, finePlan,
      fineSpecs, fineTasks⟩
    obtain ⟨visible, headed⟩ := isOk_proposalProblems.mp finePlan
    obtain ⟨graph, read, referring⟩ := (isOk_taskProblems listed).mp fineTasks
    exact ⟨proposal, graph, proposed, visible, headed, (isOk_specProblems specified).mp fineSpecs,
      ⟨document, tasks, read⟩, referring⟩
  · rintro ⟨proposal, graph, proposed, visible, headed, specified, ⟨document, tasks, read⟩,
      referring⟩
    obtain ⟨specs, checked⟩ := specProblems_of_text text (affectedSpecs proposal)
    obtain ⟨found, listed⟩ : ∃ found,
        (taskProblems (affectedSpecs proposal) document).2 = .ok found :=
      taskProblems_ok_iff.mpr (read ▸ TaskList.IsExplained.ok graph)
    exact ⟨Folder.isFile_of_read proposed, Folder.isFile_of_read tasks, proposal, document, specs,
      found, proposed, tasks, checked, listed, isOk_proposalProblems.mpr ⟨visible, headed⟩,
      (isOk_specProblems checked).mpr specified, (isOk_taskProblems listed).mpr
        ⟨graph, read, referring⟩⟩

/-- All documents that a complete plan needs are there. -/
theorem CompletePlan.isWhole {proposal : String} {graph : TaskGraph}
    (complete : folder.CompletePlan proposal graph) :
    ∃ artifacts, folder.required = .ok artifacts ∧
      ∀ artifact ∈ artifacts, folder.has artifact = true := by
  have proposed : folder.has .proposal = true := Folder.isFile_of_read complete.proposed
  refine ⟨.proposal :: (affectedSpecs proposal).map .spec ++ [.tasks], ?_, ?_⟩
  · unfold required specIds
    rw [if_pos proposed, complete.proposed]
    rfl
  · intro artifact member
    simp only [List.cons_append, List.mem_cons, List.mem_append, List.mem_map, List.not_mem_nil,
      or_false] at member
    rcases member with rfl | ⟨id, among, rfl⟩ | rfl
    · exact proposed
    · obtain ⟨text, read, -⟩ := complete.specified id among
      exact Folder.isFile_of_read read
    · obtain ⟨document, read, -⟩ := complete.listed
      exact Folder.isFile_of_read read

/-! ### Files beside the plan -/

/-- Whether a path lies in the folder of the specs and is no file of a spec that the proposal
names. -/
def IsStray (folder : ChangeFolder) (path : FilePath) : Prop :=
  (∃ name rest, path = "specs" :: name :: rest) ∧
    ∀ ids, folder.specIds = .ok ids → ∀ id ∈ ids, path ≠ (Artifact.spec id).file

theorem not_isStray_proposal : ¬folder.IsStray (Artifact.file .proposal) := by
  rintro ⟨⟨name, rest, same⟩, -⟩
  simp [Artifact.file] at same

theorem not_isStray_tasks : ¬folder.IsStray (Artifact.file .tasks) := by
  rintro ⟨⟨name, rest, same⟩, -⟩
  simp [Artifact.file] at same

/-- Two folders that differ in strays alone have the same errors. -/
theorem errors_of_agrees {other : ChangeFolder} {validation : Validation}
    (agrees : ∀ path, ¬folder.IsStray path → other.files.entry? path = folder.files.entry? path)
    (text : folder.files.IsText) (validates : folder.validate = .ok validation) :
    ∃ found, other.validate = .ok found ∧ found.errors = validation.errors := by
  have nothing (seen : ChangeFolder) (ids : List String) :
      (straySpecs seen ids).filter (·.level = .error) = [] := by
    simpa [Validation.isOk, Validation.errors] using isOk_straySpecs seen ids
  have proposedAlike : other.has .proposal = folder.has .proposal :=
    Folder.isFile_congr (agrees _ not_isStray_proposal)
  have listedAlike : other.has .tasks = folder.has .tasks :=
    Folder.isFile_congr (agrees _ not_isStray_tasks)
  have readAlike {artifact : Artifact} {document : String}
      (counts : ¬folder.IsStray artifact.file) (read : folder.read artifact = .ok document) :
      other.read artifact = .ok document :=
    (Folder.read_congr (agrees _ counts).symm (Folder.isFile_of_read read)).symm.trans read
  unfold validate checkup at validates ⊢
  rw [proposedAlike, listedAlike]
  cases proposed : folder.has .proposal with
  | false =>
      rw [proposed] at validates
      exact ⟨validation, validates, rfl⟩
  | true =>
      obtain ⟨proposal, read⟩ : ∃ proposal, folder.read .proposal = .ok proposal :=
        text.read proposed
      have named : folder.specIds = .ok (affectedSpecs proposal) := by
        unfold specIds
        rw [if_pos proposed, read]
        rfl
      have counts : ∀ id ∈ affectedSpecs proposal, ¬folder.IsStray (Artifact.spec id).file :=
        fun id member stray => stray.2 _ named id member rfl
      obtain ⟨specs, checked⟩ := specProblems_of_text text (affectedSpecs proposal)
      have planned (seen : ChangeFolder) (same : seen.read .proposal = .ok proposal)
          (alike : specProblems seen (affectedSpecs proposal) = .ok specs) :
          seen.planProblems = .ok (affectedSpecs proposal,
            proposalProblems proposal ++ specs ++ straySpecs seen (affectedSpecs proposal)) := by
        unfold planProblems
        rw [same]
        dsimp only [bind, Except.bind]
        rw [alike]
      have specsAlike : specProblems other (affectedSpecs proposal) = .ok specs :=
        (specProblems_congr fun id member => agrees _ (counts id member)).trans checked
      rw [planned other (readAlike not_isStray_proposal read) specsAlike]
      rw [proposed, planned folder read checked] at validates
      cases listed : folder.has .tasks with
      | false =>
          simp only [listed, Bool.not_true, Bool.false_eq_true, if_false, Bool.not_false, if_true,
            Except.ok.injEq] at validates ⊢
          subst validates
          exact ⟨_, rfl, by simp [Validation.errors, nothing]⟩
      | true =>
          obtain ⟨document, tasks⟩ : ∃ document, folder.read .tasks = .ok document :=
            text.read listed
          have same := readAlike not_isStray_tasks tasks
          simp only [listed, Bool.not_true, Bool.false_eq_true, if_false, tasks] at validates
          simp only [Bool.not_true, Bool.false_eq_true, if_false, same]
          obtain ⟨problems, found, rfl⟩ := TaskList.map_ok_iff.mp validates
          rw [found]
          exact ⟨_, rfl, by simp [Validation.errors, nothing]⟩

/-! ### The errors of the check -/

theorem errors_eq_nil_iff {validation : Validation} :
    validation.errors = [] ↔ validation.isOk = true := by
  simp [Validation.isOk]

/-- **No error means a complete plan.**  If all files are text and the task list is a graph or it is
told why not, the check gives a result, and it has no error exactly if the documents are a complete
plan: then all documents that are needed are there.  Whatever else stands or stood in the folder of
the specs, the errors are the same. -/
theorem no_error_iff_complete (folder : ChangeFolder) (text : folder.files.IsText)
    (told : ∀ document, folder.read .tasks = .ok document →
      (∃ graph, (TaskGraph.read document).graph = .ok graph) ∨
        ∃ fault, (TaskGraph.read document).graph = .error (.tasks fault)) :
    ∃ validation, folder.validate = .ok validation ∧
      (validation.errors = [] ↔ ∃ proposal graph, folder.CompletePlan proposal graph) ∧
      (validation.errors = [] → ∃ artifacts, folder.required = .ok artifacts ∧
        ∀ artifact ∈ artifacts, folder.has artifact = true) ∧
      ∀ other : ChangeFolder,
        (∀ path, ¬folder.IsStray path → other.files.entry? path = folder.files.entry? path) →
          ∃ found, other.validate = .ok found ∧ found.errors = validation.errors := by
  obtain ⟨validation, validates⟩ := (validate_ok_iff text).mpr fun _ document read =>
    TaskList.IsExplained.iff_ok_or_told.mpr (told document read)
  have fine : validation.errors = [] ↔ ∃ proposal graph, folder.CompletePlan proposal graph := by
    rw [errors_eq_nil_iff, ← isValid_iff_complete text]
    constructor
    · exact fun isOk => ⟨validation, validates, isOk⟩
    · rintro ⟨other, same, isOk⟩
      cases validates.symm.trans same
      exact isOk
  refine ⟨validation, validates, fine, fun none => ?_, fun other agrees =>
    errors_of_agrees agrees text validates⟩
  obtain ⟨proposal, graph, complete⟩ := fine.mp none
  exact complete.isWhole

end ChangeFolder

/-! ### A plan with a file too many -/

namespace NamedSpecPlan

open ChangeFolder TaskList

def proposal : String := "# Search\n\n- Affected specs: `auth`\n"

def tasks : String :=
  "```yaml\nid: 1\naction: create\nfile: a\nspec_ref: ' specs/auth.md #login'\n```"

/-- The plan, and what stands in a file that the proposal does not name. -/
def planBeside (stray : FileContent) : ChangeFolder :=
  ⟨⟨"/", ["work"]⟩,
    [(Artifact.file .proposal, .file (.text proposal)), (["specs"], .folder),
      ((Artifact.spec "auth").file, .file (.text "Who may search")),
      (["specs", "old.md"], .file stray), (Artifact.file .tasks, .file (.text tasks))]⟩

def task : Task :=
  { id := "1", layer := 1, title := "1", file := "a", action := .create
    specRef := some " specs/auth.md #login" }

theorem read_tasks : (TaskGraph.read tasks).graph = .ok ⟨[⟨"data", 1, [task]⟩]⟩ := by
  -- The text is read by its characters, which spares decoding it.
  have spelled : tasks.toList = _ := String.toList_ofList
  have undeclared : declaredLayers tasks.toList = .ok [] := by
    rw [spelled]
    decide +kernel
  have read : (tasksOf (blocksAfter [] (bodyOf tasks.toList))).2 = .ok [task] := by
    rw [spelled]
    decide +kernel
  have sound : TaskGraph.IsSound ⟨[⟨"data", 1, [task]⟩]⟩ := ⟨by decide, by decide, by decide⟩
  exact TaskGraph.read_ok_iff.mpr ⟨[], undeclared, [task], read, List.cons_ne_nil _ _, rfl, sound⟩

theorem read_planBeside (stray : FileContent) : (planBeside stray).read .tasks = .ok tasks := by
  have plain : '\r' ∉ tasks.toList := by
    unfold tasks
    rw [String.toList_ofList]
    decide
  exact Folder.read_of_plain rfl plain

theorem affectedSpecs_proposal : affectedSpecs proposal = ["auth"] := by decide +kernel

theorem isText_planBeside (text : String) : (planBeside (.text text)).files.IsText := by
  intro path content found
  obtain ⟨known, member, same⟩ := Option.map_eq_some_iff.mp found
  have among := List.mem_of_find?_eq_some member
  simp only [planBeside, List.mem_cons, List.not_mem_nil, or_false] at among
  rcases among with rfl | rfl | rfl | rfl | rfl
  · cases same
    exact ⟨_, rfl⟩
  · cases same
  · cases same
    exact ⟨_, rfl⟩
  · cases same
    exact ⟨_, rfl⟩
  · cases same
    exact ⟨_, rfl⟩

theorem plan_isComplete (stray : FileContent) :
    (planBeside stray).CompletePlan proposal ⟨[⟨"data", 1, [task]⟩]⟩ where
  proposed := rfl
  visible := ⟨'#', by decide, by decide⟩
  headed := ⟨"# Search".toList, by decide, rfl⟩
  specified := by
    rw [affectedSpecs_proposal, List.forall_mem_singleton]
    exact ⟨"Who may search", rfl, 'W', by decide, by decide⟩
  listed := ⟨tasks, read_planBeside stray, read_tasks⟩
  referring := by
    intro found member reference refers
    obtain rfl : found = task := List.mem_singleton.mp member
    cases refers
    exact ⟨"auth", refersTo_iff.mpr (by decide), .inr (by rw [affectedSpecs_proposal]; simp)⟩

/-- The file too many is the only stray. -/
theorem planBeside_agrees (stray other : FileContent) :
    ∀ path, ¬(planBeside stray).IsStray path →
      (planBeside other).files.entry? path = (planBeside stray).files.entry? path := by
  intro path counts
  have different : path ≠ ["specs", "old.md"] := by
    rintro rfl
    refine counts ⟨⟨_, _, rfl⟩, fun ids named id member same => ?_⟩
    have specs : (planBeside stray).specIds = .ok ["auth"] :=
      congrArg Except.ok affectedSpecs_proposal
    cases specs.symm.trans named
    rw [List.mem_singleton.mp member] at same
    revert same
    decide
  simp [planBeside, Folder.entry?, List.find?_cons, Ne.symm different]

/-- The check finds no error, and none either once the file too many holds no text. -/
theorem plan_has_no_error :
    (∃ validation, (planBeside (.text "")).validate = .ok validation ∧ validation.errors = []) ∧
      ∃ validation, (planBeside (.bytes [255])).validate = .ok validation ∧
        validation.errors = [] := by
  have told : ∀ document, (planBeside (.text "")).read .tasks = .ok document →
      (∃ graph, (TaskGraph.read document).graph = .ok graph) ∨
        ∃ fault, (TaskGraph.read document).graph = .error (.tasks fault) := by
    intro document read
    cases (read_planBeside _).symm.trans read
    exact .inl ⟨_, read_tasks⟩
  obtain ⟨validation, validates, fine, -, beside⟩ :=
    no_error_iff_complete (planBeside (.text "")) (isText_planBeside "") told
  have none : validation.errors = [] := fine.mpr ⟨_, _, plan_isComplete _⟩
  obtain ⟨found, validatesToo, same⟩ :=
    beside (planBeside (.bytes [255])) (planBeside_agrees _ _)
  exact ⟨⟨validation, validates, none⟩, found, validatesToo, same.trans none⟩

end NamedSpecPlan

end PlanCycle
