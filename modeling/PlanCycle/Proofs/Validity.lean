/-
Module: PlanCycle.Proofs.Validity
Purpose: When the documents of a change are valid, and that this is a matter of the plan's own
  files: the critiques in their file have no part in it.
Main exports:
  Folder.AgreesExcept, ChangeFolder.IsValid, ChangeFolder.isValid_iff, ChangeFolder.IsValid.congr,
  ChangeFolder.IsValid.critiquePrompt, Cycle.validateStep_done_iff
-/
import PlanCycle.Proofs.Execution

namespace PlanCycle

open Text

/-! ### Folders that differ at one path -/

namespace Folder

/-- Whether two folders hold the same at every path but one. -/
def AgreesExcept (path : FilePath) (first second : Folder) : Prop :=
  ∀ other, other ≠ path → first.entry? other = second.entry? other

theorem AgreesExcept.refl (path : FilePath) (folder : Folder) : AgreesExcept path folder folder :=
  fun _ _ => rfl

theorem AgreesExcept.trans {path : FilePath} {first second third : Folder}
    (one : AgreesExcept path first second) (two : AgreesExcept path second third) :
    AgreesExcept path first third :=
  fun other differs => (one other differs).trans (two other differs)

variable {path other : FilePath} {first second : Folder}

theorem isFile_congr (same : first.entry? other = second.entry? other) :
    first.isFile other = second.isFile other := by
  unfold isFile
  rw [same]

/-- What is read from a file depends on what stands at its path only. -/
theorem read_congr (same : first.entry? other = second.entry? other)
    (file : first.isFile other = true) : first.read other = second.read other := by
  have content : first.content other = second.content other := by
    unfold Folder.content
    rw [← same]
    unfold isFile at file
    split at file
    · rename_i content stands
      rw [stands]
    · cases file
  unfold read rawText
  rw [content]

end Folder

theorem Artifact.file_ne_challenge {artifact : Artifact} (other : artifact ≠ .challenge) :
    artifact.file ≠ Artifact.file .challenge := by
  cases artifact with
  | proposal => decide
  | spec id => simp [Artifact.file]
  | tasks => decide
  | challenge => exact absurd rfl other

namespace ChangeFolder

/-- What is wrong with specs depends on their own files. -/
theorem specProblems_congr {first second : ChangeFolder} {ids : List String}
    (same : ∀ id ∈ ids, first.files.entry? (Artifact.spec id).file =
      second.files.entry? (Artifact.spec id).file) :
    specProblems first ids = specProblems second ids := by
  induction ids with
  | nil => rfl
  | cons id ids ih =>
      obtain ⟨here, others⟩ := List.forall_mem_cons.mp same
      have there : first.has (.spec id) = second.has (.spec id) := Folder.isFile_congr here
      unfold specProblems
      rw [ih others, ← there]
      cases file : first.has (.spec id) with
      | false => rfl
      | true =>
          have read : first.read (.spec id) = second.read (.spec id) := Folder.read_congr here file
          rw [read]

section
variable {first second : ChangeFolder}
variable (agrees : Folder.AgreesExcept (Artifact.file .challenge) first.files second.files)
include agrees

theorem has_congr {artifact : Artifact} (other : artifact ≠ .challenge) :
    first.has artifact = second.has artifact :=
  Folder.isFile_congr (agrees _ (Artifact.file_ne_challenge other))

theorem read_congr {artifact : Artifact} (other : artifact ≠ .challenge)
    (file : first.has artifact = true) : first.read artifact = second.read artifact :=
  Folder.read_congr (agrees _ (Artifact.file_ne_challenge other)) file

end

/-! ### Valid documents -/

/-- Whether the check of the documents finds nothing that makes the change invalid. -/
def IsValid (folder : ChangeFolder) : Prop :=
  ∃ validation, folder.checkup.result = .ok validation ∧ validation.isOk = true

theorem isOk_append (first second : List Problem) :
    Validation.isOk ⟨first ++ second⟩ = (Validation.isOk ⟨first⟩ && Validation.isOk ⟨second⟩) := by
  simp only [Validation.isOk, Validation.errors, List.filter_append]
  cases first.filter (·.level = .error) with
  | nil => rfl
  | cons problem problems => rfl

theorem isOk_error (artifact : Artifact) (message : String) :
    Validation.isOk ⟨[.error artifact message]⟩ = false := rfl

theorem isOk_ofTasks (halves : Bool) (message : String) :
    Validation.isOk ⟨[.ofTasks halves message]⟩ = false := rfl

/-- A spec that the proposal does not name is only warned of. -/
theorem isOk_straySpecs (folder : ChangeFolder) (ids : List String) :
    Validation.isOk ⟨straySpecs folder ids⟩ = true := by
  unfold Validation.isOk Validation.errors
  rw [List.isEmpty_iff, List.filter_eq_nil_iff]
  intro problem member
  unfold straySpecs at member
  obtain ⟨id, -, rfl⟩ := List.mem_map.mp member
  simp

/-- The documents are valid exactly if proposal and task list are there and neither these nor the
specs that the proposal names have a problem that counts. -/
theorem isValid_iff {folder : ChangeFolder} :
    folder.IsValid ↔
      folder.has .proposal = true ∧ folder.has .tasks = true ∧
        ∃ proposal document specs found, folder.read .proposal = .ok proposal ∧
          folder.read .tasks = .ok document ∧
          specProblems folder (affectedSpecs proposal) = .ok specs ∧
          (taskProblems (affectedSpecs proposal) document).2 = .ok found ∧
          Validation.isOk ⟨proposalProblems proposal⟩ = true ∧ Validation.isOk ⟨specs⟩ = true ∧
          Validation.isOk ⟨found⟩ = true := by
  unfold IsValid checkup
  cases proposed : folder.has .proposal with
  | false => simp [isOk_error]
  | true =>
      unfold planProblems
      cases read : folder.read .proposal with
      | error fault => simp [bind, Except.bind]
      | ok proposal =>
          cases specified : specProblems folder (affectedSpecs proposal) with
          | error fault => simp [specified, bind, Except.bind]
          | ok specs =>
              cases listed : folder.has .tasks with
              | false => simp [specified, bind, Except.bind, isOk_append, isOk_error]
              | true =>
                  cases tasks : folder.read .tasks with
                  | error fault => simp [specified, bind, Except.bind]
                  | ok document =>
                      cases found : (taskProblems (affectedSpecs proposal) document).2 with
                      | error breakdown =>
                          simp [specified, bind, Except.bind, found, Except.map]
                      | ok problems =>
                          simp [specified, bind, Except.bind, found, Except.map, isOk_append,
                            isOk_straySpecs]

/-- What stands in the file of the critiques has no part in the validity of the documents. -/
theorem IsValid.congr {first second : ChangeFolder}
    (agrees : Folder.AgreesExcept (Artifact.file .challenge) first.files second.files)
    (valid : first.IsValid) : second.IsValid := by
  obtain ⟨proposed, listed, proposal, document, specs, found, read, tasks, specified, rest⟩ :=
    isValid_iff.1 valid
  have proposalOther : Artifact.proposal ≠ .challenge := by decide
  have tasksOther : Artifact.tasks ≠ .challenge := by decide
  refine isValid_iff.2 ⟨?_, ?_, proposal, document, specs, found, ?_, ?_, ?_, rest⟩
  · rw [← has_congr agrees proposalOther]
    exact proposed
  · rw [← has_congr agrees tasksOther]
    exact listed
  · rw [← read_congr agrees proposalOther proposed]
    exact read
  · rw [← read_congr agrees tasksOther listed]
    exact tasks
  · have specOther (id : String) : Artifact.spec id ≠ .challenge := by simp
    rw [← specProblems_congr fun id _ => agrees _ (Artifact.file_ne_challenge (specOther id))]
    exact specified

/-- Problems are looked for in one spec after the other: the first one is missing, or it can be
read and has a problem if it is blank. -/
theorem specProblems_cons {folder : ChangeFolder} {id : String} {ids : List String}
    {problems : List Problem} (checked : specProblems folder (id :: ids) = .ok problems) :
    ∃ more, specProblems folder ids = .ok more ∧
      ((folder.has (.spec id) = false ∧
          problems = [.error (.spec id) "listed in proposal but missing"] ++ more) ∨
        ∃ text, folder.has (.spec id) = true ∧ folder.read (.spec id) = .ok text ∧
          problems = (if isBlankText text.toList then [.error (.spec id) "empty"] else []) ++
            more) := by
  unfold specProblems at checked
  cases there : folder.has (.spec id) with
  | false =>
      simp only [there, Bool.false_eq_true, if_false] at checked
      cases others : specProblems folder ids with
      | error fault => simp [others, bind, Except.bind] at checked
      | ok more =>
          simp only [others, bind, Except.bind, Except.ok.injEq] at checked
          exact ⟨more, rfl, .inl ⟨rfl, checked.symm⟩⟩
  | true =>
      simp only [there, if_true] at checked
      cases read : folder.read (.spec id) with
      | error fault => simp [read, bind, Except.bind] at checked
      | ok text =>
          cases others : specProblems folder ids with
          | error fault => simp [read, others, bind, Except.bind] at checked
          | ok more =>
              simp only [read, others, bind, Except.bind, Except.ok.injEq] at checked
              exact ⟨more, rfl, .inr ⟨text, rfl, rfl, checked.symm⟩⟩

/-- Specs without a problem that counts are there. -/
theorem has_of_specProblems {folder : ChangeFolder} {ids : List String} {specs : List Problem}
    (checked : specProblems folder ids = .ok specs) (fine : Validation.isOk ⟨specs⟩ = true) :
    ∀ id ∈ ids, folder.has (.spec id) = true := by
  induction ids generalizing specs with
  | nil => simp
  | cons id ids ih =>
      obtain ⟨more, others, ⟨-, rfl⟩ | ⟨text, there, -, rfl⟩⟩ := specProblems_cons checked
      · rw [isOk_append, isOk_error] at fine
        cases fine
      · rw [isOk_append, Bool.and_eq_true] at fine
        exact List.forall_mem_cons.mpr ⟨there, ih others fine.2⟩

/-- All documents of a valid change are written. -/
theorem IsValid.isWritten {folder : ChangeFolder} (valid : folder.IsValid) :
    Cycle.isWritten folder = .ok true := by
  obtain ⟨proposed, listed, proposal, document, specs, found, read, -, specified, -, -, fine, -⟩ :=
    isValid_iff.1 valid
  unfold Cycle.isWritten required specIds
  rw [if_pos proposed, read]
  have written := has_of_specProblems specified fine
  simp [Except.map, proposed, listed]
  exact written

/-- Specs in which problems can be looked for can be read. -/
theorem read_of_specProblems {folder : ChangeFolder} {ids : List String} {specs : List Problem}
    (checked : specProblems folder ids = .ok specs) :
    ∀ id ∈ ids, folder.has (.spec id) = true → ∃ text, folder.read (.spec id) = .ok text := by
  induction ids generalizing specs with
  | nil => simp
  | cons id ids ih =>
      obtain ⟨more, others, ⟨missing, -⟩ | ⟨text, -, read, -⟩⟩ := specProblems_cons checked
      · refine List.forall_mem_cons.mpr ⟨fun there => ?_, ih others⟩
        rw [missing] at there
        cases there
      · exact List.forall_mem_cons.mpr ⟨fun _ => ⟨text, read⟩, ih others⟩

theorem bundleOf_ok {folder : ChangeFolder} {artifacts : List Artifact}
    (readable : ∀ artifact ∈ artifacts, folder.has artifact = true →
      ∃ text, folder.read artifact = .ok text) :
    ∃ parts, folder.bundleOf artifacts = .ok parts := by
  induction artifacts with
  | nil => exact ⟨[], rfl⟩
  | cons artifact artifacts ih =>
      obtain ⟨parts, rest⟩ := ih fun other member => readable other (List.mem_cons_of_mem _ member)
      unfold bundleOf
      rw [rest]
      split
      · rename_i there
        obtain ⟨text, read⟩ := readable artifact List.mem_cons_self there
        rw [read]
        exact ⟨_, rfl⟩
      · exact ⟨_, rfl⟩

/-- The documents of a valid change can be put together. -/
theorem IsValid.bundle {folder : ChangeFolder} (valid : folder.IsValid) :
    ∃ documents, folder.bundle = .ok documents := by
  obtain ⟨proposed, -, proposal, document, specs, found, read, tasks, specified, -⟩ :=
    isValid_iff.1 valid
  have readable : ∀ artifact ∈ Artifact.proposal :: (affectedSpecs proposal).map .spec ++ [.tasks],
      folder.has artifact = true → ∃ text, folder.read artifact = .ok text := by
    intro artifact member there
    rcases List.mem_append.mp member with first | last
    · rcases List.mem_cons.mp first with rfl | spec
      · exact ⟨proposal, read⟩
      · obtain ⟨id, named, rfl⟩ := List.mem_map.mp spec
        exact read_of_specProblems specified id named there
    · obtain rfl := List.mem_singleton.mp last
      exact ⟨document, tasks⟩
  obtain ⟨parts, bundled⟩ := bundleOf_ok readable
  have required : folder.required =
      .ok (.proposal :: (affectedSpecs proposal).map .spec ++ [.tasks]) := by
    unfold ChangeFolder.required specIds
    rw [if_pos proposed, read]
    rfl
  refine ⟨"\n\n".intercalate parts, ?_⟩
  unfold ChangeFolder.bundle
  rw [required]
  exact congrArg (Except.map _) bundled

/-- The critic can be asked about a valid change. -/
theorem IsValid.critiquePrompt {folder : ChangeFolder} (valid : folder.IsValid) (id : String)
    (iteration : Int) (reviewer : String) :
    ∃ prompt, folder.critiquePrompt id iteration reviewer = .ok prompt := by
  obtain ⟨documents, written⟩ := valid.bundle
  exact ⟨_, congrArg (Except.map _) written⟩

/-- The implementer can be asked to work on a valid change. -/
theorem IsValid.implementationPrompt {folder : ChangeFolder} (valid : folder.IsValid) (id : String)
    (pending : List String) : ∃ prompt, folder.implementationPrompt id pending = .ok prompt := by
  obtain ⟨documents, written⟩ := valid.bundle
  exact ⟨_, congrArg (Except.map _) written⟩

/-! ### A smallest plan -/

/-- A list of one task. -/
def leastTasks : String := "```yaml\nid: 1\naction: create\nfile: a\n```"

/-- A plan of one task and no specs. -/
def leastPlan : Folder :=
  [(Artifact.file .proposal, .file (.text "#")), (Artifact.file .tasks, .file (.text leastTasks))]

/-- A task that waits for no other is on no cycle. -/
theorem cycle?_of_independent {task : Task} (independent : task.dependsOn = []) :
    TaskGraph.cycle? [task] = none := by
  have followed : TaskGraph.dependenciesOf [task] task.id = [] := by
    simp [TaskGraph.dependenciesOf, independent]
  simp [TaskGraph.cycle?, TaskGraph.visitAll, TaskGraph.visit, followed]

/-- The task of the list. -/
def leastTask : Task :=
  { id := "1", layer := 1, title := "1", file := "a", action := .create }

theorem checkedGraph_leastTask :
    TaskList.checkedGraph [] [leastTask] = .ok ⟨[⟨"data", 1, [leastTask]⟩]⟩ := by
  have acyclic : TaskGraph.cycle? [leastTask] = none := cycle?_of_independent rfl
  have tasks : TaskGraph.tasks ⟨[⟨"data", 1, [leastTask]⟩]⟩ = [leastTask] := rfl
  have sound : TaskGraph.fault? ⟨[⟨"data", 1, [leastTask]⟩]⟩ = none := by
    unfold TaskGraph.fault?
    simp only [tasks, acyclic]
    rfl
  have graph : TaskList.graphOf [] [leastTask] = .ok ⟨[⟨"data", 1, [leastTask]⟩]⟩ := rfl
  unfold TaskList.checkedGraph
  rw [graph]
  dsimp only [bind, Except.bind]
  rw [sound]
  rfl

/-- A list without declared layers and without a head is read from its blocks. -/
theorem read_of_blocks {document : String} {skipped : Nat} {tasks : List Task} {graph : TaskGraph}
    (undeclared : TaskList.declaredLayers document.toList = .ok [])
    (headless : TaskList.head? document.toList = none)
    (described : TaskList.tasksOf (TaskList.blocksAfter [] document.toList) = (skipped, .ok tasks))
    (checked : TaskList.checkedGraph [] tasks = .ok graph) :
    TaskGraph.read document = ⟨skipped, .ok graph⟩ := by
  unfold TaskGraph.read
  simp only [undeclared, headless, described, checked, Except.bind]
  rfl

/-- The list of one task describes a graph. -/
theorem read_leastTasks :
    TaskGraph.read leastTasks = ⟨0, .ok ⟨[⟨"data", 1, [leastTask]⟩]⟩⟩ := by
  -- The text is read by its characters, which spares decoding it.
  have listed : leastTasks.toList = _ := String.toList_ofList
  have undeclared : TaskList.declaredLayers leastTasks.toList = .ok [] := by
    rw [listed]
    decide +kernel
  have headless : TaskList.head? leastTasks.toList = none := by
    rw [listed]
    decide +kernel
  have described : TaskList.tasksOf (TaskList.blocksAfter [] leastTasks.toList) =
      (0, .ok [leastTask]) := by
    rw [listed]
    decide +kernel
  exact read_of_blocks undeclared headless described checkedGraph_leastTask

theorem taskProblems_leastTasks : taskProblems [] leastTasks = (0, .ok []) := by
  unfold taskProblems
  rw [read_leastTasks]
  rfl

/-- What is found in the task list is added to what is found in the plan. -/
theorem checkup_of_planned {folder : ChangeFolder} {ids : List String} {document : String}
    {problems : List Problem} {skipped : Nat} {found : Except Breakdown (List Problem)}
    (proposed : folder.has .proposal = true) (listed : folder.has .tasks = true)
    (planned : folder.planProblems = .ok (ids, problems))
    (read : folder.read .tasks = .ok document)
    (checked : taskProblems ids document = (skipped, found)) :
    folder.checkup = ⟨skipped, found.map fun found => ⟨problems ++ found⟩⟩ := by
  unfold checkup
  simp only [proposed, planned, listed, read, checked]
  rfl

/-- The check finds nothing in the documents of the least plan if no spec stands beside them. -/
theorem checkup_of_leastDocuments {folder : ChangeFolder} (proposed : folder.has .proposal = true)
    (listed : folder.has .tasks = true) (proposal : folder.read .proposal = .ok "#")
    (tasks : folder.read .tasks = .ok leastTasks) (strays : straySpecs folder [] = []) :
    folder.checkup = ⟨0, .ok ⟨[]⟩⟩ := by
  have unnamed : affectedSpecs "#" = [] := by decide
  have headed : proposalProblems "#" = [] := by decide
  have planned : planProblems folder = .ok ([], []) := by
    unfold planProblems
    simp only [proposal, bind, Except.bind, unnamed, headed, strays]
    rfl
  exact checkup_of_planned proposed listed planned tasks taskProblems_leastTasks

theorem read_leastPlan (place : Path) :
    (⟨place, leastPlan⟩ : ChangeFolder).read .tasks = .ok leastTasks := by
  have plain : '\r' ∉ leastTasks.toList := by
    unfold leastTasks
    rw [String.toList_ofList]
    decide
  exact Folder.read_of_plain rfl plain

theorem checkup_leastPlan (place : Path) : checkup ⟨place, leastPlan⟩ = ⟨0, .ok ⟨[]⟩⟩ := by
  have strays : straySpecs ⟨place, leastPlan⟩ [] = [] := by
    simp [straySpecs, Folder.names, leastPlan, Artifact.file]
  exact checkup_of_leastDocuments rfl rfl rfl (read_leastPlan place) strays

theorem leastPlan_isValid (place : Path) : IsValid ⟨place, leastPlan⟩ :=
  ⟨⟨[]⟩, congrArg Checkup.result (checkup_leastPlan place), rfl⟩

end ChangeFolder

/-! ### The step of the check -/

namespace Cycle

/-- The warnings about blocks of the task list that are skipped. -/
def skippedWarnings (folder : ChangeFolder) : List Event :=
  (List.replicate folder.checkup.skipped skippedBlockWarning).map .warning

/-- The lines about problems that do not make a change invalid. -/
def problemLines (problems : List Problem) : List Event :=
  problems.map fun problem => .line ("[yellow]⚠ " ++ problem.text ++ "[/yellow]")

@[simp] theorem validated_apply (context : CycleContext) (world : World) :
    validated context world =
      ((context.folder world).checkup.result.mapError .breakdown,
        world.shows (skippedWarnings (context.folder world))) := by
  unfold validated documents
  rw [Run.bind_of_ok (Run.look_apply _ world), Run.bind_of_ok (Run.warnAll_apply _ world)]
  exact Run.ofExcept_apply _ _

theorem validated_ok_iff {context : CycleContext} {world last : World} {validation : Validation} :
    validated context world = (.ok validation, last) ↔
      (context.folder world).checkup.result = .ok validation ∧
        last = world.shows (skippedWarnings (context.folder world)) := by
  rw [validated_apply]
  cases (context.folder world).checkup.result with
  | error breakdown => exact ⟨nofun, nofun⟩
  | ok found =>
      constructor
      · intro same
        cases same
        exact ⟨rfl, rfl⟩
      · rintro ⟨⟨⟩, rfl⟩
        rfl

@[simp] theorem showProblems_apply (problems : List Problem) (world : World) :
    showProblems problems world = (.ok (), world.shows (problemLines problems)) := by
  induction problems generalizing world with
  | nil => simp [showProblems, problemLines]
  | cons problem problems ih =>
      rw [showProblems, Run.bind_of_ok (Run.say_apply _ world), ih]
      simp [problemLines]

/-- The world after a check that found the documents valid. -/
def afterCheck (context : CycleContext) (validation : Validation) (world : World) : World :=
  ((world.logs (stepEvent context "validate" "started")).shows
      (skippedWarnings (context.folder world) ++ problemLines validation.warnings)).logs
    (stepEvent context "validate" "completed")

/-- The check goes on exactly if the documents are valid; it only shows and logs. -/
theorem validateStep_done_iff {context : CycleContext} {world last : World} :
    validateStep context world = (.ok (.done ()), last) ↔
      ∃ validation, (context.folder world).checkup.result = .ok validation ∧
        validation.isOk = true ∧ last = afterCheck context validation world := by
  constructor
  · intro ran
    rcases runStep_cases ran with ⟨ending, after, body, same, rfl⟩ | ⟨_, _, _, _, impossible, _⟩ |
      ⟨_, _, _, _, _, impossible, _⟩
    · cases same
      obtain ⟨validation, _, validates, body⟩ := Run.bind_ok body
      obtain ⟨checked, rfl⟩ := validated_ok_iff.1 validates
      rw [Run.bind_of_ok (showProblems_apply _ _), World.shows_shows] at body
      unfold Validation.failure? at body
      cases fine : validation.isOk with
      | true =>
          rw [if_pos fine] at body
          cases body
          exact ⟨validation, checked, fine, rfl⟩
      | false =>
          rw [if_neg (by simp [fine])] at body
          cases body
    · cases impossible
    · cases impossible
  · rintro ⟨validation, checked, fine, rfl⟩
    have begun : validated context (world.logs (stepEvent context "validate" "started")) =
        (.ok validation, _) := validated_ok_iff.2 ⟨checked, rfl⟩
    refine runStep_of_ok ((Run.bind_of_ok begun).trans ?_)
    rw [Run.bind_of_ok (showProblems_apply _ _), World.shows_shows]
    unfold Validation.failure?
    rw [if_pos fine]
    rfl

end Cycle

end PlanCycle
