/-
Module: PlanCycle.Proofs.KeptFiles
Purpose: What a run does to the files of a change by itself: as long as agents and programs write
  nothing, files stay as they were, critiques are added to those that are there, and only documents
  that the plan needs are new.
Main exports:
  Folder.file?, Folder.file?_writeContent, Folder.Spares, World.LeavesFiles, Guarantee.sparing,
  Cycle.generateStep_spares, Project.run_spares_files
-/
import PlanCycle.Proofs.CritiqueRound
import PlanCycle.Proofs.Guarantee
import PlanCycle.Proofs.History

namespace PlanCycle

/-! ### Files and where they are written -/

namespace Folder

/-- What is in the file at a path, if one stands there. -/
def file? (folder : Folder) (path : FilePath) : Option FileContent :=
  match folder.entry? path with
  | some (.file content) => some content
  | _ => none

variable {folder after : Folder} {path other : FilePath}

theorem isFile_eq (folder : Folder) (path : FilePath) :
    folder.isFile path = (folder.file? path).isSome := by
  unfold isFile file?
  cases folder.entry? path with
  | none => rfl
  | some entry =>
      cases entry with
      | folder => rfl
      | file content => rfl

theorem isFile_iff : folder.isFile path = true ↔ ∃ content, folder.file? path = some content := by
  rw [isFile_eq, Option.isSome_iff_exists]

theorem file?_eq_none_iff : folder.file? path = none ↔ folder.isFile path = false := by
  rw [isFile_eq, Option.isSome_eq_false_iff, Option.isNone_iff_eq_none]

theorem file?_eq_some_iff {content : FileContent} :
    folder.file? path = some content ↔ folder.entry? path = some (.file content) := by
  unfold file?
  split
  · rename_i stands
    simp [stands]
  · rename_i absent
    simp only [reduceCtorEq, false_iff]
    exact absent content

/-- Folders that are made on the way to a path are no files and replace none. -/
theorem file?_makeParents (made : folder.makeParents path = .ok after) (other : FilePath) :
    after.file? other = folder.file? other := by
  unfold makeParents at made
  generalize parents path = above at made
  induction above generalizing folder with
  | nil =>
      cases made
      rfl
  | cons parent above ih =>
      rw [List.foldlM_cons] at made
      cases stands : folder.entry? parent with
      | none =>
          rw [stands] at made
          rw [ih made]
          by_cases same : other = parent
          · subst same
            unfold file?
            rw [stands_put, stands]
          · unfold file?
            rw [entry?_put_of_ne folder same]
      | some entry =>
          rw [stands] at made
          cases entry with
          | folder => exact ih made
          | file content => cases made

/-- A file is written at its path and nowhere else. -/
theorem file?_writeContent {content : FileContent}
    (written : folder.writeContent path content = .ok after) (other : FilePath) :
    after.file? other = if other = path then some content else folder.file? other := by
  unfold writeContent at written
  cases made : folder.makeParents path with
  | error fault =>
      rw [made] at written
      cases written
  | ok between =>
      rw [made] at written
      dsimp only [bind, Except.bind] at written
      split at written
      · cases written
      · cases written
        split
        · rename_i same
          rw [same, file?_eq_some_iff, stands_put]
        · rename_i differs
          rw [← file?_makeParents made other]
          unfold file?
          rw [entry?_put_of_ne between differs]

/-- A text that is added to a file leaves the others alone. -/
theorem file?_append {text : String} (added : folder.append path text = .ok after)
    (other : FilePath) :
    after.file? other = if other = path
      then some (((folder.file? path).getD (.text "")).append text) else folder.file? other := by
  have same : folder.append path text =
      folder.writeContent path (((folder.file? path).getD (.text "")).append text) := by
    unfold append file?
    cases folder.entry? path with
    | none => simp [FileContent.append]
    | some entry =>
        cases entry with
        | folder => simp [FileContent.append]
        | file content => rfl
  exact file?_writeContent (same ▸ added) other

end Folder

/-! ### Documents that are spared -/

/-- Whether there is a proposal, by which a document is one that the plan needs. -/
def ChangeFolder.Needs (folder : ChangeFolder) (artifact : Artifact) : Prop :=
  folder.has .proposal = true ∧ ∃ artifacts, folder.required = .ok artifacts ∧ artifact ∈ artifacts

/-- The proposal alone says what the plan needs. -/
theorem ChangeFolder.Needs.of_proposal {place : Path} {before after : Folder} {artifact : Artifact}
    (needed : Needs ⟨place, before⟩ artifact)
    (kept : ∀ content, before.file? (Artifact.file .proposal) = some content →
      after.file? (Artifact.file .proposal) = some content) :
    Needs ⟨place, after⟩ artifact := by
  obtain ⟨there, artifacts, required, member⟩ := needed
  obtain ⟨content, stands⟩ := Folder.isFile_iff.1 there
  have still : has ⟨place, after⟩ .proposal = true := Folder.isFile_iff.2 ⟨_, kept content stands⟩
  have entries : before.entry? (Artifact.file .proposal) =
      after.entry? (Artifact.file .proposal) := by
    rw [Folder.file?_eq_some_iff.1 stands, Folder.file?_eq_some_iff.1 (kept content stands)]
  have read : ChangeFolder.read ⟨place, before⟩ .proposal =
      ChangeFolder.read ⟨place, after⟩ .proposal := Folder.read_congr entries there
  refine ⟨still, artifacts, ?_, member⟩
  unfold ChangeFolder.required ChangeFolder.specIds at required ⊢
  rw [if_pos there, read] at required
  rw [if_pos still]
  exact required

/-- A proposal that is written down says what the plan needs: itself, for one thing. -/
theorem ChangeFolder.needs_proposal {place : Path} {files : Folder} {text : String}
    (stands : files.file? (Artifact.file .proposal) = some (.text text)) :
    Needs ⟨place, files⟩ .proposal := by
  have there : has ⟨place, files⟩ .proposal = true := Folder.isFile_iff.2 ⟨_, stands⟩
  obtain ⟨proposal, read⟩ : ∃ proposal, read ⟨place, files⟩ .proposal = .ok proposal := by
    unfold read Folder.read Folder.rawText Folder.content
    rw [Folder.file?_eq_some_iff.1 stands]
    exact ⟨_, rfl⟩
  refine ⟨there, .proposal :: (affectedSpecs proposal).map .spec ++ [.tasks], ?_,
    List.mem_cons_self⟩
  unfold required specIds
  rw [if_pos there, read]
  rfl

/-- Every file has stayed as it was, except that texts may have been added to the critiques.  New
files are the one of the critiques and documents that the plan needs. -/
structure Folder.Spares (place : Path) (before after : Folder) : Prop where
  kept : ∀ path content, path ≠ Artifact.file .challenge → before.file? path = some content →
    after.file? path = some content
  critiques : ∀ content, before.file? (Artifact.file .challenge) = some content →
    ∃ added, after.file? (Artifact.file .challenge) = some (content.append added)
  fresh : ∀ path, path ≠ Artifact.file .challenge → before.file? path = none →
    after.file? path ≠ none →
      ∃ artifact, ChangeFolder.Needs ⟨place, after⟩ artifact ∧ path = artifact.file

namespace Folder.Spares

variable {place : Path} {before middle after : Folder}

/-- What the plan needs it still needs, as the proposal is not written again. -/
theorem needs {artifact : Artifact} (spares : before.Spares place after)
    (needed : ChangeFolder.Needs ⟨place, before⟩ artifact) :
    ChangeFolder.Needs ⟨place, after⟩ artifact :=
  needed.of_proposal fun content => spares.kept _ content (by decide)

theorem refl (place : Path) (folder : Folder) : folder.Spares place folder :=
  ⟨fun _ _ _ stands => stands, fun content stands => ⟨"", by simpa using stands⟩,
    fun _ _ absent present => absurd absent present⟩

theorem trans (earlier : before.Spares place middle) (later : middle.Spares place after) :
    before.Spares place after := by
  refine ⟨fun path content other stands => ?_, fun content stands => ?_,
    fun path other absent present => ?_⟩
  · exact later.kept path content other (earlier.kept path content other stands)
  · obtain ⟨one, between⟩ := earlier.critiques content stands
    obtain ⟨two, last⟩ := later.critiques _ between
    exact ⟨one ++ two, by rw [last, FileContent.append_append]⟩
  · cases between : middle.file? path with
    | none => exact later.fresh path other between present
    | some content =>
        obtain ⟨artifact, needed, same⟩ :=
          earlier.fresh path other absent (by rw [between]; exact nofun)
        exact ⟨artifact, later.needs needed, same⟩

/-- A text that is added to the critiques spares all other files. -/
theorem append {text : String}
    (added : before.append (Artifact.file .challenge) text = .ok after) :
    before.Spares place after := by
  have files := Folder.file?_append added
  refine ⟨fun path content other stands => ?_, fun content stands => ⟨text, ?_⟩,
    fun path other absent present => ?_⟩
  · rw [files, if_neg other, stands]
  · rw [files, if_pos rfl, stands]
    rfl
  · rw [files, if_neg other, absent] at present
    exact absurd rfl present

/-- A missing document that the plan needs is a new file. -/
theorem write {artifact : Artifact} {text : String}
    (missing : ChangeFolder.has ⟨place, before⟩ artifact = false)
    (needed : artifact = .proposal ∨ ChangeFolder.Needs ⟨place, before⟩ artifact)
    (written : before.write artifact.file text = .ok after) : before.Spares place after := by
  have files := Folder.file?_writeContent written
  have absent : before.file? artifact.file = none := Folder.file?_eq_none_iff.2 missing
  have kept : ∀ path content, before.file? path = some content →
      after.file? path = some content := by
    intro path content stands
    rw [files, if_neg, stands]
    rintro rfl
    rw [absent] at stands
    cases stands
  refine ⟨fun path content _ => kept path content, fun content stands => ⟨"", ?_⟩,
    fun path _ unwritten present => ⟨artifact, ?_, ?_⟩⟩
  · simpa using kept _ content stands
  · rcases needed with rfl | needed
    · exact ChangeFolder.needs_proposal (by rw [files, if_pos rfl])
    · exact needed.of_proposal (kept _)
  · rw [files] at present
    split at present
    · assumption
    · exact absurd unwritten present

end Folder.Spares

/-! ### Agents and programs that write nothing -/

/-- Whether no answer that an agent has ready comes with a change of the files. -/
def Agent.LeavesFiles : Agent → Prop
  | .ready first others => ∀ reply ∈ first :: others, reply.edits = []
  | .program _ => True

/-- Whether no program that is still to be run changes the files. -/
def Processes.LeavesFiles (processes : Processes) : Prop :=
  ∀ script ∈ processes.scripts, script.edits = []

/-- Whether neither agents nor programs will change the files. -/
structure World.LeavesFiles (world : World) : Prop where
  agents : ∀ role, (world.agents role).LeavesFiles
  processes : world.processes.LeavesFiles

theorem Agent.LeavesFiles.afterFirst {first : Reply} {others : List Reply}
    (leaves : (Agent.ready first others).LeavesFiles) :
    (AgentCall.afterFirst first others).LeavesFiles := by
  cases others with
  | nil => exact leaves
  | cons second others => exact fun reply member => leaves reply (List.mem_cons_of_mem first member)

/-- An agent with one answer ready leaves the files alone if that answer comes with no change. -/
theorem Agent.leavesFiles_ready {reply : Reply} (silent : reply.edits = []) :
    (Agent.ready reply []).LeavesFiles :=
  List.forall_mem_singleton.mpr silent

/-- Agents leave the files alone if they do after one of them is exchanged for another that does. -/
theorem World.LeavesFiles.withAgent {world : World} {role : Role} {agent : Agent}
    (leaves : world.LeavesFiles) (other : agent.LeavesFiles) :
    World.LeavesFiles { world with agents := AgentCall.withAgent role agent world.agents } := by
  refine ⟨fun asked => ?_, leaves.processes⟩
  dsimp only [AgentCall.withAgent]
  split
  · exact other
  · exact leaves.agents asked

/-! ### What runs guarantee of the files -/

/-- As long as agents and programs write nothing, documents are spared by whatever writes only the
documents that are named, of which each is needed. -/
def Guarantee.sparing (place : Path) (named : Artifact → Prop) : Guarantee where
  holds before after := before.LeavesFiles →
    (∀ artifact, named artifact →
      artifact = .proposal ∨ ChangeFolder.Needs ⟨place, before.files⟩ artifact) →
    after.LeavesFiles ∧ before.files.Spares place after.files
  refl world leaves _ := ⟨leaves, .refl place world.files⟩
  trans earlier later leaves needed := by
    obtain ⟨still, one⟩ := earlier leaves needed
    obtain ⟨last, two⟩ := later still fun artifact among =>
      (needed artifact among).imp_right one.needs
    exact ⟨last, one.trans two⟩
  line world _ leaves _ := ⟨⟨leaves.agents, leaves.processes⟩, .refl place world.files⟩
  warning world _ leaves _ := ⟨⟨leaves.agents, leaves.processes⟩, .refl place world.files⟩
  logs world _ leaves _ := ⟨⟨leaves.agents, leaves.processes⟩, .refl place world.files⟩

section
variable {place : Path} {named : Artifact → Prop}

open Run Guarantee

theorem Run.runProcess_spares (spawn : ProcessResult → Spawn) :
    Guarantees (sparing place named) (Run.runProcess spawn) := by
  intro world result last ran leaves needed
  unfold Run.runProcess at ran
  split at ran
  · cases ran
    exact ⟨⟨leaves.agents, leaves.processes⟩, .refl place _⟩
  · rename_i script scripts next
    cases ran
    have first : script.edits = [] :=
      leaves.processes script (by rw [next]; exact List.mem_cons_self)
    have others : ∀ other ∈ scripts, other.edits = [] := fun other member =>
      leaves.processes other (by rw [next]; exact List.mem_cons_of_mem script member)
    refine ⟨⟨leaves.agents, others⟩, ?_⟩
    dsimp only
    rw [first]
    exact .refl place _

theorem AgentCall.invoke_spares (call : AgentCall) (root : Path) :
    Guarantees (sparing place named) (call.invoke root) := by
  intro world result last ran leaves needed
  unfold invoke at ran
  rw [Run.bind_of_ok (Run.look_apply _ world),
    Run.bind_of_ok (Run.emit_apply (.asked call world.files) world),
    Run.bind_of_ok (Run.look_apply _ _)] at ran
  have asked : (world.shows [.asked call world.files]).LeavesFiles :=
    ⟨leaves.agents, leaves.processes⟩
  rw [World.agents_shows] at ran
  have silent := leaves.agents call.role
  cases agent : world.agents call.role with
  | ready first others =>
      rw [agent] at ran silent
      dsimp only at ran
      rw [askReady_apply, silent first List.mem_cons_self] at ran
      obtain ⟨-, rfl⟩ := Prod.mk.inj ran
      exact ⟨asked.withAgent silent.afterFirst, .refl place _⟩
  | program setup =>
      rw [agent] at ran
      have asking : Guarantees (sparing place named) (call.askProgram root setup) :=
        .bind (.ofExcept _) fun words => .bind (Run.runProcess_spares _) fun result => .ofExcept _
      have gives := asking ran
      exact gives asked needed

/-- Calls, programs and critiques spare the documents. -/
theorem Guarantee.sparing_covers : (sparing place named).Covers where
  call call context accept :=
    AgentCall.run_guarantees (call.invoke_spares context.root) fun _ _ world leaves _ =>
      ⟨⟨leaves.agents, leaves.processes⟩, .refl place world.files⟩
  process := Run.runProcess_spares
  session work := .session (fun world _ leaves _ =>
    ⟨⟨leaves.agents, leaves.processes⟩, .refl place world.files⟩) work
  critique text := by
    intro world result last ran leaves needed
    unfold Run.changeFiles at ran
    split at ran
    · rename_i files added
      cases ran
      exact ⟨⟨leaves.agents, leaves.processes⟩, .append added⟩
    · cases ran
      exact ⟨leaves, .refl place _⟩

end

/-! ### The documents that a cycle writes -/

namespace Cycle

open Run Guarantee

section
variable {context : CycleContext} {named : Artifact → Prop}

/-- A document that is named is written down if it is missing. -/
theorem fillDocument_spares {artifact : Artifact} (among : named artifact)
    (answer : AgentAnswer) :
    Guarantees (sparing context.place named) (fillDocument context artifact answer) := by
  intro world result last ran leaves needed
  unfold fillDocument documents at ran
  rw [Run.bind_of_ok (Run.look_apply _ world)] at ran
  split at ran
  · rename_i absent
    have missing : (context.folder world).has artifact = false := by simpa using absent
    rcases putDocument_cases ran with ⟨files, -, written, -, rfl⟩ | ⟨files, -, written, -, rfl⟩ |
      ⟨_, -, rfl⟩
    · exact ⟨⟨leaves.agents, leaves.processes⟩, .write missing (needed artifact among) written⟩
    · exact ⟨⟨leaves.agents, leaves.processes⟩, .write missing (needed artifact among) written⟩
    · exact ⟨leaves, .refl _ _⟩
  · cases ran
    exact ⟨leaves, .refl _ _⟩

/-- A document is written only where none is. -/
theorem writeDocument_spares {artifact : Artifact} (among : named artifact) :
    Guarantees (sparing context.place named) (writeDocument context artifact) := by
  rw [writeDocument_eq]
  refine .bind (.say _) fun _ => .bind (.look _) fun folder => .bind (.ofExcept _) fun prompt => ?_
  refine .bind (sparing_covers.call _ _ _) fun answer => ?_
  exact .bind (fillDocument_spares among answer) fun _ =>
    keepDocument_guarantees (fun work => sparing_covers.session work) _ _ _

theorem generateMissing_spares {artifact : Artifact} (among : named artifact) :
    Guarantees (sparing context.place named) (generateMissing context artifact) := by
  refine .bind (.look _) fun folder => ?_
  split
  · exact .say _
  · refine .bind (writeDocument_spares among) fun _ => ?_
    split
    · exact selfReview_guarantees sparing_covers context artifact
    · exact .pure _

theorem generateAll_spares {artifacts : List Artifact}
    (among : ∀ artifact ∈ artifacts, named artifact) :
    Guarantees (sparing context.place named) (generateAll context artifacts) := by
  induction artifacts with
  | nil => exact .pure _
  | cons artifact artifacts ih =>
      obtain ⟨first, others⟩ := List.forall_mem_cons.mp among
      exact .bind (generateMissing_spares first) fun _ => ih others

end

/-- A document is there once it was written down. -/
theorem has_of_fillDocument {context : CycleContext} {artifact : Artifact} {answer : AgentAnswer}
    {world last : World} (ran : fillDocument context artifact answer world = (.ok (), last)) :
    (context.folder last).has artifact = true := by
  unfold fillDocument documents at ran
  rw [Run.bind_of_ok (Run.look_apply _ world)] at ran
  split at ran
  · rcases putDocument_cases ran with ⟨files, -, written, -, rfl⟩ | ⟨_, -, -, impossible, -⟩ |
      ⟨_, impossible, -⟩
    · have there := Folder.file?_writeContent written artifact.file
      rw [if_pos rfl] at there
      exact Folder.isFile_iff.2 ⟨_, there⟩
    · cases impossible
    · cases impossible
  · rename_i present
    cases ran
    simpa using present

/-- The guarantee that no file changes. -/
def sameFiles : Guarantee where
  holds before after := after.files = before.files
  refl _ := rfl
  trans earlier later := later.trans earlier
  line _ _ := rfl
  warning _ _ := rfl
  logs _ _ := rfl

theorem has_of_writeDocument {context : CycleContext} {artifact : Artifact} {world last : World}
    (ran : writeDocument context artifact world = (.ok (), last)) :
    (context.folder last).has artifact = true := by
  rw [writeDocument_eq] at ran
  obtain ⟨_, _, -, ran⟩ := Run.bind_ok ran
  obtain ⟨_, _, -, ran⟩ := Run.bind_ok ran
  obtain ⟨_, _, -, ran⟩ := Run.bind_ok ran
  obtain ⟨answer, _, -, ran⟩ := Run.bind_ok ran
  obtain ⟨_, filled, wrote, ran⟩ := Run.bind_ok ran
  have keeping : Guarantees sameFiles (keepDocument context artifact answer) :=
    keepDocument_guarantees (fun work => .session (fun _ _ => rfl) work) context artifact answer
  have same : last.files = filled.files := keeping ran
  have there := has_of_fillDocument wrote
  unfold CycleContext.folder at there ⊢
  rwa [same]

theorem has_of_generateMissing {context : CycleContext} {world last : World}
    (leaves : world.LeavesFiles)
    (ran : generateMissing context .proposal world = (.ok (), last)) :
    (context.folder last).has .proposal = true := by
  unfold generateMissing documents at ran
  rw [Run.bind_of_ok (Run.look_apply _ world)] at ran
  split at ran
  · rename_i present
    cases ran
    exact present
  · obtain ⟨_, after, wrote, ran⟩ := Run.bind_ok ran
    have there := has_of_writeDocument wrote
    have writing : Guarantees (sparing context.place (· = .proposal))
        (writeDocument context .proposal) := writeDocument_spares rfl
    have looking : Guarantees (sparing context.place fun _ => False)
        (selfReview context .proposal) := selfReview_guarantees sparing_covers context .proposal
    split at ran
    · have spares := (looking ran (writing wrote leaves fun _ => .inl).1 nofun).2
      obtain ⟨content, stands⟩ := Folder.isFile_iff.1 there
      exact Folder.isFile_iff.2 ⟨content, spares.kept _ content (by decide) stands⟩
    · cases ran
      exact there

/-- Only missing documents that the plan needs are written. -/
theorem generateStep_spares (context : CycleContext) :
    Guarantees (sparing context.place fun _ => False) (generateStep context) := by
  apply runStep_guarantees
  intro world result last ran leaves _
  have proposing : Guarantees (sparing context.place (· = .proposal))
      (generateMissing context .proposal) := generateMissing_spares rfl
  rcases Run.bind_cases ran with ⟨_, stopped, -⟩ | ⟨_, after, first, ran⟩
  · exact proposing stopped leaves fun _ => .inl
  obtain ⟨left, spares⟩ := proposing first leaves fun _ => .inl
  -- From here on the proposal is there and stays, so the list that is read from it is still the
  -- list of the plan when its last document is written.
  have there := has_of_generateMissing leaves first
  rw [documents, Run.bind_of_ok (Run.look_apply _ after)] at ran
  have looking : Guarantees (sparing context.place fun _ => False)
      (Run.ofFiles (context.folder after).required) := .ofFiles _
  rcases Run.bind_cases ran with ⟨_, stopped, -⟩ | ⟨artifacts, looked, read, wrote⟩
  · obtain ⟨last, more⟩ := looking stopped left nofun
    exact ⟨last, spares.trans more⟩
  obtain ⟨required, rfl⟩ := Run.ofFiles_ok_iff.1 read
  have writing : Guarantees (sparing context.place (· ∈ artifacts.drop 1))
      (generateAll context (artifacts.drop 1) >>= fun _ => pure (StepEnd.done ())) :=
    .bind (generateAll_spares fun _ member => member) fun _ => .pure _
  have goesOn := writing wrote
  obtain ⟨last, more⟩ := goesOn left fun artifact member =>
    .inr ⟨there, artifacts, required, List.mem_of_mem_drop member⟩
  exact ⟨last, spares.trans more⟩

/-- A planning cycle writes missing documents that the plan needs, and critiques. -/
theorem runCycle_spares (context : CycleContext) (phase : Phase) :
    Guarantees (sparing context.place fun _ => False) (runCycle context phase) := by
  refine .bind (onlyValidates_guarantees context phase) fun only => ?_
  split
  · exact .bind (.say _) fun _ => outcomeFromRecords_guarantees context phase
  · refine .bind (generateStep_spares context) fun ending => ?_
    cases ending with
    | ended outcome => exact .pure _
    | done _ => exact challengePlan_guarantees sparing_covers context

end Cycle

/-! ### The files of a project's change -/

/-- Whether neither the agents nor the programs that a run may use change files. -/
structure Means.LeavesFiles (means : Means) : Prop where
  agents : ∀ cast, means.cast = some cast → ∀ role, (cast.agents role).LeavesFiles
  processes : means.processes.LeavesFiles

namespace Project

open Run Guarantee

variable {project : Project} {root : Path} {id : String} {means : Means}

/-- The configured players are programs. -/
theorem players_leaveFiles (leaves : means.LeavesFiles) {cast : Cast}
    (played : project.players means = .ok cast) (role : Role) :
    (cast.agents role).LeavesFiles := by
  unfold players at played
  split at played
  · rename_i named known
    cases played
    exact leaves.agents cast known role
  · unfold Cast.standard at played
    dsimp only at played
    cases generator : (AgentSetup.resolve project.settings project.environment
        .generator).mapError Stop.ofRole with
    | error reason => simp [generator, bind, Except.bind] at played
    | ok one =>
        cases critic : (AgentSetup.resolve project.settings project.environment
            .critic).mapError Stop.ofRole with
        | error reason => simp [generator, critic, bind, Except.bind] at played
        | ok two =>
            cases implementer : (AgentSetup.resolve project.settings project.environment
                .implementer).mapError Stop.ofRole with
            | error reason => simp [generator, critic, implementer, bind, Except.bind] at played
            | ok three =>
                simp only [generator, critic, implementer, bind, Except.bind, Except.ok.injEq]
                  at played
                subst played
                cases role with
                | generator => trivial
                | critic => trivial
                | implementer => trivial

/-- Getting a cycle ready changes no file. -/
theorem prepare_sameFiles (project : Project) (root : Path) (id : String) (means : Means) :
    Guarantees Cycle.sameFiles (project.prepare root id means) := by
  rw [prepare_eq]
  refine .bind (.session (fun _ _ => rfl) _) fun change => .bind (.ofExcept _) fun cast => ?_
  refine .bind ?_ fun lister => .bind ?_ fun _ => ?_
  · unfold Project.lister
    split
    · exact .pure _
    · exact .stop _
  · intro world result last ran
    cases ran
    rfl
  · split
    · exact .stop _
    · exact .pure _

/-- What a run spares from where it starts it spares in its project. -/
theorem spares_within {α : Type} {run : Path → Run α}
    (spares : ∀ store result last,
      run (project.place root id) (project.start root id means store) = (result, last) →
        Folder.Spares (project.place root id) (project.state (project.place root id)).files
          last.files) :
    Folder.Spares (project.place root id) (project.state (project.place root id)).files
      ((project.within root id means run).project.state (project.place root id)).files := by
  cases recorded : project.records root id with
  | none =>
      rw [within_of_unrecorded recorded]
      exact .refl _ _
  | some store =>
      rcases ran : run (project.place root id) (project.start root id means store) with
        ⟨result, last⟩
      rw [within_of_recorded recorded ran, state_setState]
      exact spares store result last ran

theorem onceReady_spares {body : CycleContext → Phase → Run CycleOutcome}
    (leaves : means.LeavesFiles)
    (gives : ∀ context phase,
      Guarantees (sparing context.place fun _ => False) (body context phase)) :
    Folder.Spares (project.place root id) (project.state (project.place root id)).files
      ((project.within root id means fun _ =>
        project.onceReady root id means body).project.state (project.place root id)).files := by
  apply spares_within
  intro store result last ran
  rcases Run.bind_cases ran with ⟨_, stopped, -⟩ | ⟨⟨context, phase⟩, ready, prepared, went⟩
  · have same : last.files = (project.state (project.place root id)).files :=
      prepare_sameFiles project root id means stopped
    rw [same]
    exact .refl _ _
  · obtain ⟨change, cast, lister, found, played, -, -, rfl, rfl, rfl⟩ := prepare_ok_iff.1 prepared
    have place : (project.context root change cast means lister).place =
        project.place root id := congrArg (project.place root) (Store.id_of_find? found)
    have spares := (gives _ _ went ⟨players_leaveFiles leaves played, leaves.processes⟩ nofun).2
    rw [place] at spares
    exact spares

theorem implement_spares (leaves : means.LeavesFiles) :
    Folder.Spares (project.place root id) (project.state (project.place root id)).files
      ((project.implement root id means).project.state (project.place root id)).files := by
  rw [implement_eq]
  apply spares_within
  intro store result last ran
  rcases Run.bind_cases ran with ⟨_, impossible, -⟩ | ⟨_, engaged, one, ran⟩
  · cases impossible
  cases one
  have silent : ∀ role, ((means.cast.getD .unassigned).agents role).LeavesFiles := by
    cases named : means.cast with
    | none => exact fun role => Agent.leavesFiles_ready rfl
    | some known => exact leaves.agents known named
  have finding (context : CycleContext) : Guarantees (sparing context.place fun _ => False)
      (project.findImplementer means context) := by
    unfold findImplementer
    split
    · exact .pure _
    · refine .bind (.ofExcept _) fun setup => .bind ?_ fun _ => .pure _
      intro world result last ran left _
      cases ran
      exact ⟨left.withAgent trivial, .refl _ _⟩
  exact (Lifecycle.implement_guarantees sparing_covers (finding _) ran
    ⟨silent, leaves.processes⟩ nofun).2

/-- **A run keeps the files of its change.**  If agents and programs write nothing, then whatever is
answered and however a cycle, a round of critiques or an implementation ends, each file but the one
of the critiques stays as it was, the critiques that were there stay in front of those that are
added, and a new file is the one of the critiques or a document that the plan needs. -/
theorem run_spares_files (project : Project) (root : Path) (id : String)
    (leaves : means.LeavesFiles) {operation : ChangeOperation}
    (run : operation ∈ [.cycle means, .challenge means, .implement means]) :
    Folder.Spares (project.place root id) (project.state (project.place root id)).files
      ((after root id project operation).state (project.place root id)).files := by
  simp only [List.mem_cons, List.not_mem_nil, or_false] at run
  rcases run with rfl | rfl | rfl
  · exact onceReady_spares leaves Cycle.runCycle_spares
  · exact onceReady_spares leaves fun context =>
      Cycle.runChallenge_guarantees sparing_covers context
  · exact implement_spares leaves

end Project

/-- A round of two critiques leaves the plan as it is. -/
theorem TwoTurns.round_spares_plan :
    means.LeavesFiles ∧ ∀ path content, path ≠ Artifact.file .challenge →
      Folder.file? ChangeFolder.leastPlan path = some content →
        Folder.file? ((Project.after root change.id project (.challenge means)).state
          (project.place root change.id)).files path = some content := by
  have leaves : means.LeavesFiles := by
    refine ⟨fun played named role => ?_, fun script member => ?_⟩
    · cases named
      cases role with
      | generator => exact Agent.leavesFiles_ready rfl
      | critic => exact List.forall_mem_cons.mpr ⟨rfl, List.forall_mem_singleton.mpr rfl⟩
      | implementer => exact Agent.leavesFiles_ready rfl
    · obtain rfl := List.mem_singleton.mp member
      rfl
  have round : ChangeOperation.challenge means ∈
      [ChangeOperation.cycle means, .challenge means, .implement means] := by simp
  have spares := Project.run_spares_files project root change.id leaves round
  rw [files_project] at spares
  exact ⟨leaves, spares.kept⟩

end PlanCycle
