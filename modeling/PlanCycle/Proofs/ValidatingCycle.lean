/-
Module: PlanCycle.Proofs.ValidatingCycle
Purpose: A cycle on a change that only has to be validated: it asks nobody, changes nothing, and
  gives what the phase, the documents and the last critique of the change say.
Main exports:
  Run.IsReadOnly, Cycle.ReadsAs, Cycle.outcomeFromRecords_readsAs, Project.SameContents,
  Project.validating_cycle_is_readOnly
-/
import PlanCycle.Proofs.CheckedPlan

namespace PlanCycle

variable {α β : Type}

/-! ### Runs that only read and show -/

/-- A world in which nothing but lines and warnings were added, and maybe other agents. -/
structure World.Unchanged (before after : World) : Prop where
  files : after.files = before.files
  store : after.store = before.store
  shown : ∃ shown, after.events = before.events ++ shown ∧ ∀ event ∈ shown, event.IsShown

/-- Whether a run leaves files and records as they are and asks nobody, however it ends. -/
def Run.IsReadOnly (run : Run α) : Prop :=
  ∀ world : World, world.Unchanged (run world).2

theorem World.Unchanged.refl (world : World) : world.Unchanged world :=
  ⟨rfl, rfl, [], by simp, by simp⟩

theorem World.Unchanged.trans {first middle last : World} (earlier : first.Unchanged middle)
    (later : middle.Unchanged last) : first.Unchanged last := by
  obtain ⟨added, addedEvents, addedShown⟩ := earlier.shown
  obtain ⟨more, moreEvents, moreShown⟩ := later.shown
  refine ⟨later.files.trans earlier.files, later.store.trans earlier.store, added ++ more, ?_, ?_⟩
  · rw [moreEvents, addedEvents, List.append_assoc]
  · intro event member
    rcases List.mem_append.mp member with old | new
    · exact addedShown event old
    · exact moreShown event new

theorem World.Unchanged.shows {world : World} {events : List Event}
    (shown : ∀ event ∈ events, event.IsShown) : world.Unchanged (world.shows events) :=
  ⟨rfl, rfl, events, rfl, shown⟩

namespace Run.IsReadOnly

theorem unchanged {run : Run α} (reads : IsReadOnly run) {world last : World}
    {result : Except Stop α} (ran : run world = (result, last)) : world.Unchanged last := by
  have same := reads world
  rwa [ran] at same

theorem pure (value : α) : IsReadOnly (pure value : Run α) :=
  fun world => .refl world

theorem stop (reason : Stop) : IsReadOnly (Run.stop reason : Run α) :=
  fun world => .refl world

theorem look (view : World → α) : IsReadOnly (Run.look view) :=
  fun world => .refl world

theorem ofExcept (value : Except Stop α) : IsReadOnly (Run.ofExcept value) := by
  intro world
  rw [Run.ofExcept_apply]
  exact .refl world

theorem bind {first : Run α} {next : α → Run β} (one : IsReadOnly first)
    (two : ∀ value, IsReadOnly (next value)) : IsReadOnly (first >>= next) := by
  intro world
  rcases ran : (first >>= next) world with ⟨result, last⟩
  rcases Run.bind_cases ran with ⟨reason, stopped, -⟩ | ⟨value, after, begun, ended⟩
  · exact one.unchanged stopped
  · exact (one.unchanged begun).trans ((two value).unchanged ended)

theorem say (text : String) : IsReadOnly (Run.say text) :=
  fun _ => .shows (by simp [Event.IsShown])

theorem warnAll (texts : List String) : IsReadOnly (Run.warnAll texts) := by
  intro world
  rw [Run.warnAll_apply]
  exact .shows (by simp [Event.IsShown])

theorem load (id : String) : IsReadOnly (Run.session (Session.load id)) := by
  intro world
  rcases ran : Run.session (Session.load id) world with ⟨result, last⟩
  rcases Run.session_cases ran with ⟨_, _, _, rfl⟩ | ⟨change, store, worked, _, rfl⟩
  · exact .refl _
  · obtain ⟨-, rfl⟩ := Session.load_ok_iff.1 worked
    exact .refl _

end Run.IsReadOnly

namespace Cycle

open Run

theorem validated_isReadOnly (context : CycleContext) : IsReadOnly (validated context) :=
  .bind (.look _) fun _ => .bind (.warnAll _) fun _ => .ofExcept _

theorem outcomeFromRecords_isReadOnly (context : CycleContext) (phase : Phase) :
    IsReadOnly (outcomeFromRecords context phase) := by
  refine .bind (.look _) fun latest => ?_
  split
  · exact .pure _
  · refine .bind (validated_isReadOnly context) fun validation => ?_
    split
    · exact .pure _
    · split
      · exact .pure _
      · exact .pure _

end Cycle

/-! ### What records and documents say -/

/-- The phases of a plan that was approved. -/
def Phase.approved : List Phase := [.challenged, .implementing, .complete, .archived]

theorem Phase.mem_approved_iff {phase : Phase} :
    phase ∈ approved ↔ phase ≠ .proposed ∧ phase ≠ .rejected := by
  cases phase <;> simp [approved]

/-- Whether all documents that a plan needs are there. -/
def ChangeFolder.IsWritten (folder : ChangeFolder) : Prop :=
  ∃ artifacts, folder.required = .ok artifacts ∧ ∀ artifact ∈ artifacts, folder.has artifact = true

namespace Cycle

theorem isWritten_iff {folder : ChangeFolder} : isWritten folder = .ok true ↔ folder.IsWritten := by
  unfold isWritten ChangeFolder.IsWritten
  cases folder.required with
  | error fault => simp [Except.map]
  | ok artifacts => simp [Except.map, List.all_eq_true]

/-- A change that is not proposed, or whose plan is written, only has to be validated. -/
def Validates (phase : Phase) (folder : ChangeFolder) : Prop :=
  phase ≠ .proposed ∨ folder.IsWritten

/-- What a phase, the documents and the last critique of a change say about its plan. -/
inductive ReadsAs (folder : ChangeFolder) (policy : CyclePolicy) (latest : Option ReviewEntry) :
    Phase → CycleOutcome → Prop
  | rejected : ReadsAs folder policy latest .rejected .rejected
  | invalid {phase : Phase} {message : String} (judged : phase ≠ .rejected)
      (broken : ¬folder.IsValid) :
      ReadsAs folder policy latest phase (.error .validation "validate" message)
  | approved {phase : Phase} (later : phase ∈ Phase.approved) (valid : folder.IsValid) :
      ReadsAs folder policy latest phase .approved
  | proposed {outcome : CycleOutcome} (valid : folder.IsValid)
      (same : outcome = proposedOutcome policy latest) :
      ReadsAs folder policy latest .proposed outcome

/-- The last critique exhausts the budget if it wants changes, names an issue and was the last one
that the policy allows; otherwise the change needs another round. -/
theorem proposedOutcome_cases (policy : CyclePolicy) (latest : Option ReviewEntry) :
    (∃ entry, latest = some entry ∧ entry.verdict = Verdict.needsRevision.word ∧
        entry.issues ≠ [] ∧ policy.planningIterations ≤ entry.iteration ∧
        proposedOutcome policy latest = .exhausted entry.issues.length) ∨
      ∃ message, proposedOutcome policy latest = .error .state "challenge" message := by
  unfold proposedOutcome
  cases found : latest.filter fun entry =>
      entry.verdict == Verdict.needsRevision.word && !entry.issues.isEmpty with
  | none => exact .inr ⟨_, rfl⟩
  | some entry =>
      obtain ⟨same, wants⟩ := Option.filter_eq_some_iff.mp found
      simp only [Bool.and_eq_true, beq_iff_eq, Bool.not_eq_true', List.isEmpty_eq_false_iff] at wants
      by_cases early : entry.iteration < policy.planningIterations
      · exact .inr ⟨_, if_pos early⟩
      · exact .inl ⟨entry, same, wants.1, wants.2, by omega, if_neg early⟩

section
variable {folder : ChangeFolder} {policy : CyclePolicy} {latest : Option ReviewEntry}
variable {phase : Phase}

/-- Only a plan that was approved before is approved. -/
theorem ReadsAs.of_approved (reads : ReadsAs folder policy latest phase .approved) :
    phase ∈ Phase.approved ∧ folder.IsValid := by
  cases reads with
  | approved later valid => exact ⟨later, valid⟩
  | proposed valid same =>
      rcases proposedOutcome_cases policy latest with ⟨_, _, _, _, _, spent⟩ | ⟨_, failed⟩
      · cases same.trans spent
      · cases same.trans failed

/-- Only a critique that wants changes exhausts the budget, and only the last one of a round. -/
theorem ReadsAs.of_exhausted {issues : Nat}
    (reads : ReadsAs folder policy latest phase (.exhausted issues)) :
    phase = .proposed ∧ folder.IsValid ∧
      ∃ entry, latest = some entry ∧ entry.verdict = Verdict.needsRevision.word ∧
        entry.issues ≠ [] ∧ entry.issues.length = issues ∧
        policy.planningIterations ≤ entry.iteration := by
  cases reads with
  | proposed valid same =>
      rcases proposedOutcome_cases policy latest with
        ⟨entry, known, verdict, named, enough, spent⟩ | ⟨_, failed⟩
      · refine ⟨rfl, valid, entry, known, verdict, named, ?_, enough⟩
        exact (CycleOutcome.exhausted.inj (same.trans spent)).symm
      · cases same.trans failed

end

section
variable {context : CycleContext} {phase : Phase} {world last : World}

/-- Whatever outcome is read from the records, phase, documents and last critique say so. -/
theorem outcomeFromRecords_readsAs {outcome : CycleOutcome}
    (ran : outcomeFromRecords context phase world = (.ok outcome, last)) :
    ReadsAs (context.folder world) context.policy
      (world.store.latestCritique? context.changeId) phase outcome := by
  unfold outcomeFromRecords at ran
  rw [Run.bind_of_ok (Run.look_apply _ world)] at ran
  split at ran
  · rename_i rejected
    cases ran
    rw [rejected]
    exact .rejected
  rename_i judged
  obtain ⟨validation, after, checked, ran⟩ := Run.bind_ok ran
  obtain ⟨found, -⟩ := validated_ok_iff.1 checked
  by_cases fine : validation.isOk = true
  · have valid : (context.folder world).IsValid := ⟨validation, found, fine⟩
    simp only [fine, Bool.not_true, Bool.false_eq_true, if_false] at ran
    split at ran
    · rename_i later
      cases ran
      exact .approved (Phase.mem_approved_iff.2 ⟨later, judged⟩) valid
    · rename_i proposed
      cases ran
      rw [show phase = .proposed by simpa using proposed]
      exact .proposed valid rfl
  · have broken : ¬(context.folder world).IsValid := by
      rintro ⟨other, same, ok⟩
      cases found.symm.trans same
      exact fine ok
    simp only [fine, Bool.not_false, if_true] at ran
    cases ran
    exact .invalid judged broken

/-- A cycle that only validates reads the outcome from the records. -/
theorem runCycle_of_validates (validates : Validates phase (context.folder world)) :
    runCycle context phase world =
      outcomeFromRecords context phase (world.shows [validatingLine]) := by
  have only : onlyValidates context phase world = (.ok true, world) := by
    unfold onlyValidates
    split
    · rfl
    · rename_i proposed
      have written : isWritten (context.folder world) = .ok true :=
        isWritten_iff.2 (validates.resolve_left proposed)
      refine (Run.bind_of_ok (Run.look_apply context.folder world)).trans ?_
      rw [Run.ofFiles_apply, written]
      rfl
  unfold runCycle
  rw [Run.bind_of_ok only, if_pos rfl, Run.bind_of_ok (Run.say_apply _ world)]
  rfl

end

end Cycle

/-! ### Validation within a project -/

/-- Whether two projects hold the same: their configuration and, in each place, files and
records. -/
structure Project.SameContents (first second : Project) : Prop where
  settings : second.settings = first.settings
  environment : second.environment = first.environment
  state : ∀ place, second.state place = first.state place

namespace Project

open PlanCycle.Cycle

variable {project : Project} {root : Path} {id : String} {means : Means}

/-- The documents of a change. -/
def documents (project : Project) (root : Path) (id : String) : ChangeFolder :=
  ⟨project.place root id, (project.state (project.place root id)).files⟩

/-- To put in its place what is there changes nothing. -/
theorem sameContents_setState (project : Project) (place : Path) :
    project.SameContents (project.setState place (project.state place)) := by
  refine ⟨rfl, rfl, fun other => ?_⟩
  by_cases same : other = place
  · rw [same, state_setState]
  have files := files_setState_of_ne project same (project.state place)
  have records : ((project.setState place (project.state place)).state other).store =
      (project.state other).store := by
    by_cases shared : project.settings.recordPath other = project.settings.recordPath place
    · rw [store_setState_of_eq project shared]
      exact congrArg (at? project.stores) shared.symm
    · exact store_setState_of_ne project shared _
  exact congrArg₂ ChangeState.mk files records

theorem prepare_isReadOnly (project : Project) (root : Path) (id : String) (means : Means) :
    (project.prepare root id means).IsReadOnly := by
  rw [prepare_eq]
  refine .bind (.load id) fun change => .bind (.ofExcept _) fun cast => ?_
  refine .bind ?_ fun lister => .bind ?_ fun _ => ?_
  · unfold Project.lister
    split
    · exact .pure _
    · exact .stop _
  · exact fun world => ⟨rfl, rfl, [], by simp [Cast.engage], by simp⟩
  · split
    · exact .stop _
    · exact .pure _

/-- A cycle that is ready is about the change as it is on record, with its documents. -/
theorem prepare_ready {store : Store} {change : Change} {context : CycleContext} {phase : Phase}
    {ready : World} (found : store.find? id = some change)
    (prepared : project.prepare root id means (project.start root id means store) =
      (.ok (context, phase), ready)) :
    context.changeId = id ∧
      context.policy = means.policy.getD (.ofSettings project.settings) ∧
      context.folder ready = project.documents root id ∧ phase = change.phase ∧
      ready.store = store := by
  obtain ⟨known, cast, lister, same, -, -, -, rfl, rfl, rfl⟩ := prepare_ok_iff.1 prepared
  obtain rfl : known = change := Option.some.inj (same.symm.trans found)
  have about : known.id = id := Store.id_of_find? found
  refine ⟨about, rfl, ?_, rfl, rfl⟩
  unfold CycleContext.folder documents
  exact congrArg (ChangeFolder.mk · _) (congrArg (project.place root) about)

/-- With able players a cycle on a change whose documents are valid has an outcome: that of its
phase, or that of its last critique if it is proposed. -/
theorem cycle_of_valid {store : Store} {change : Change} {lister : SessionLister}
    (recorded : project.records root id = some store) (found : store.find? id = some change)
    (able : project.HasPlayers means)
    (listed : SessionLister.standard? project.settings = some lister)
    (valid : (project.documents root id).IsValid) :
    (project.cycle root id means).result =
      .ok (if change.phase = .rejected then .rejected
        else if change.phase = .proposed then
          proposedOutcome (means.policy.getD (.ofSettings project.settings))
            (store.latestCritique? id)
        else .approved) := by
  obtain ⟨cast, played, resumable⟩ := able
  let context := project.context root change cast means lister
  let ready : World := { project.start root id means store with agents := cast.agents }
  have prepared : project.prepare root id means (project.start root id means store) =
      (.ok (context, change.phase), ready) :=
    prepare_ok_iff.2 ⟨change, cast, lister, found, played, listed, resumable, rfl, rfl, rfl⟩
  obtain ⟨about, policy, folder, -, kept⟩ := prepare_ready found prepared
  have stillValid : (context.folder (ready.shows [validatingLine])).IsValid := by
    rw [show context.folder (ready.shows [validatingLine]) = context.folder ready from rfl, folder]
    exact valid
  have validates : Validates change.phase (context.folder ready) := by
    rw [folder]
    exact .inr (isWritten_iff.1 valid.isWritten)
  obtain ⟨shown, -, outcome⟩ := outcomeFromRecords_of_valid change.phase stillValid
  rw [← runCycle_of_validates validates, World.store_shows, about, policy, kept] at outcome
  rw [cycle_eq, within_onceReady recorded prepared outcome]

section
variable {store : Store} {change : Change} (recorded : project.records root id = some store)
  (found : store.find? id = some change)
  (validates : Validates change.phase (project.documents root id))
include recorded found validates

/-- The outcome of a cycle that only validates is what phase, documents and last critique say. -/
theorem validating_cycle_readsAs {outcome : CycleOutcome}
    (ended : (project.cycle root id means).result = .ok outcome) :
    ReadsAs (project.documents root id) (means.policy.getD (.ofSettings project.settings))
      (store.latestCritique? id) change.phase outcome := by
  obtain ⟨same, context, phase, ready, last, known, prepared, went, -⟩ := onceReady_ok ended
  obtain rfl : same = store := Option.some.inj (known.symm.trans recorded)
  obtain ⟨about, policy, folder, rfl, kept⟩ := prepare_ready found prepared
  rw [runCycle_of_validates (by rw [folder]; exact validates)] at went
  have reads := outcomeFromRecords_readsAs went
  rw [about, policy, World.store_shows, kept] at reads
  rwa [← folder]

variable (means) in
/-- A cycle that only validates starts nothing and leaves the project as it is. -/
theorem validating_cycle_unchanged :
    (∀ event ∈ (project.cycle root id means).events, event.IsShown) ∧
      project.SameContents (project.cycle root id means).project := by
  rcases ran : project.onceReady root id means runCycle (project.start root id means store) with
    ⟨result, last⟩
  have preparing := prepare_isReadOnly project root id means
  have unchanged : (project.start root id means store).Unchanged last := by
    rcases Run.bind_cases ran with ⟨_, stopped, -⟩ | ⟨⟨context, phase⟩, ready, prepared, went⟩
    · exact preparing.unchanged stopped
    · obtain ⟨-, -, folder, rfl, -⟩ := prepare_ready found prepared
      dsimp only at went
      rw [runCycle_of_validates (by rw [folder]; exact validates)] at went
      have showing : ready.Unchanged (ready.shows [validatingLine]) :=
        .shows (by simp [validatingLine, Event.IsShown])
      have reading := outcomeFromRecords_isReadOnly context change.phase
      exact (preparing.unchanged prepared).trans (showing.trans (reading.unchanged went))
  obtain ⟨files, kept, shown, events, quiet⟩ := unchanged
  have same : ({ files := last.files, store := some last.store } : ChangeState) =
      project.state (project.place root id) := by
    rw [files, kept]
    exact congrArg (ChangeState.mk _) recorded.symm
  rw [cycle_eq, within_of_recorded recorded ran, same]
  refine ⟨fun event member => quiet event ?_, sameContents_setState project _⟩
  rw [events] at member
  simpa [start] using member

/-- **A cycle that only validates changes nothing.**  If a change is not proposed, or all documents
that its plan needs are there, a cycle asks no agent, runs no program and leaves all files and
records of the project as they are, whatever the policy.  It approves a plan only if that was
approved before and its documents are valid, and its budget is exhausted only if the last critique
wants changes and names so many issues. -/
theorem validating_cycle_is_readOnly :
    (∀ event ∈ (project.cycle root id means).events, event.IsShown) ∧
      project.SameContents (project.cycle root id means).project ∧
      ((project.cycle root id means).result = .ok .approved →
        change.phase ∈ Phase.approved ∧ (project.documents root id).IsValid) ∧
      ∀ issues, (project.cycle root id means).result = .ok (.exhausted issues) →
        ∃ entry, store.latestCritique? id = some entry ∧
          entry.verdict = Verdict.needsRevision.word ∧ entry.issues.length = issues ∧
          1 ≤ issues := by
  obtain ⟨quiet, same⟩ := validating_cycle_unchanged means recorded found validates
  refine ⟨quiet, same, fun ended => ?_, fun issues ended => ?_⟩
  · exact (validating_cycle_readsAs recorded found validates ended).of_approved
  · obtain ⟨-, -, entry, latest, verdict, named, rfl, -⟩ :=
      (validating_cycle_readsAs recorded found validates ended).of_exhausted
    exact ⟨entry, latest, verdict, rfl, List.length_pos_iff.mpr named⟩

end

end Project

namespace TwoTurns

open PlanCycle.Cycle ChangeFolder

/-- The least plan after an objection that was the last critique of its round. -/
def objectedProject : Project :=
  let objected : ReviewEntry :=
    { changeId := change.id, artifact := Artifact.proposal.name, kind := ReviewEntry.critique
      verdict := Verdict.needsRevision.word, issues := [.string "too short"], iteration := 2 }
  let place := Project.place {} root change.id
  { folders := [(place, leastPlan)]
    stores := [(Settings.recordPath {} place, { changes := [change], reviews := [objected] })] }

/-- A cycle reads from the records that the budget is exhausted, and changes nothing. -/
theorem cycle_reads_objection :
    let report := objectedProject.cycle root change.id means
    report.result = .ok (.exhausted 1) ∧ (∀ event ∈ report.events, event.IsShown) ∧
      objectedProject.SameContents report.project := by
  have recorded : objectedProject.records root change.id = some
      { changes := [change], reviews := _ } := rfl
  have valid : (objectedProject.documents root change.id).IsValid := leastPlan_isValid _
  have able : objectedProject.HasPlayers means := ⟨cast, rfl, rfl⟩
  have ended := Project.cycle_of_valid recorded rfl able listed valid
  have validates : Validates change.phase (objectedProject.documents root change.id) :=
    .inr (isWritten_iff.1 valid.isWritten)
  obtain ⟨quiet, same, -⟩ := Project.validating_cycle_is_readOnly recorded rfl validates
  exact ⟨ended, quiet, same⟩

end TwoTurns

end PlanCycle
