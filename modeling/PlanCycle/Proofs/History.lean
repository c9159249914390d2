/-
Module: PlanCycle.Proofs.History
Purpose: What holds of a change after any history of operations on it: its phase agrees with its
  last critique, whatever the agents answered, the files became and the operations gave.
Main exports:
  ChangeOperation, Project.after, Project.phase_agrees_after_history
-/
import PlanCycle.Proofs.Agreement
import PlanCycle.Proofs.CritiqueRound

namespace PlanCycle

variable {α : Type}

/-- An operation on one change. -/
inductive ChangeOperation where
  | create (description : String)
  | cycle (means : Means)
  | challenge (means : Means)
  | implement (means : Means)
  | archive
  | reenter
  /-- Files of the change are edited, maybe also the one of its records. -/
  | edit (edits : List FileEdit)

namespace Project

/-- A project after an operation on one of its changes, whatever the operation gave. -/
def after (root : Path) (id : String) (project : Project) : ChangeOperation → Project
  | .create description => (project.create root id description).project
  | .cycle means => (project.cycle root id means).project
  | .challenge means => (project.challenge root id means).project
  | .implement means => (project.implement root id means).project
  | .archive => (project.archive root id).project
  | .reenter => (project.reenter root id).project
  | .edit edits => project.edit (project.place root id) edits

/-- Whether a change, if it has records, is in a phase that agrees with its last critique. -/
def Agrees (project : Project) (root : Path) (id : String) : Prop :=
  ∀ store, project.records root id = some store → store.Agrees id

/-- What one operation keeps: the settings, the agreement and, unless it removes them, the
records. -/
structure Keeps (root : Path) (id : String) (before after : Project) : Prop where
  settings : after.settings = before.settings
  agrees : before.Agrees root id → after.Agrees root id
  recorded : (before.records root id).isSome → (after.records root id).isSome

variable {project : Project} {root : Path} {id : String}

theorem Keeps.refl (project : Project) : Keeps root id project project :=
  ⟨rfl, fun agrees => agrees, fun recorded => recorded⟩

/-- A run that keeps the agreement does so for the change in its project. -/
theorem keeps_within {means : Means} {run : Path → Run α}
    (keeps : (run (project.place root id)).KeepsAgreement id) :
    Keeps root id project (project.within root id means run).project := by
  cases recorded : project.records root id with
  | none =>
      rw [within_of_unrecorded recorded]
      exact .refl project
  | some store =>
      rcases ran : run (project.place root id) (project.start root id means store) with
        ⟨result, last⟩
      rw [within_of_recorded recorded ran]
      refine ⟨rfl, ?_, by simp [records]⟩
      intro agrees kept same
      have store_eq : last.store = kept := by simpa [records] using same
      subst store_eq
      exact keeps ran (agrees store recorded)

/-- What keeps the agreement on a change in its phase keeps it once a cycle is ready. -/
theorem onceReady_keepsAgreement (project : Project) (root : Path) (id : String) (means : Means)
    {body : CycleContext → Phase → Run α}
    (keeps : ∀ {context phase world last result}, body context phase world = (result, last) →
      world.store.Agrees context.changeId →
      (world.store.standing context.changeId).1 = some phase →
      last.store.Agrees context.changeId) :
    (project.onceReady root id means body).KeepsAgreement id := by
  intro world result last ran agrees
  have preparing : Run.IsAside id (fun _ => True) (project.prepare root id means) :=
    prepare_isAside project root id means
  rcases Run.bind_cases ran with ⟨_, stopped, -⟩ | ⟨⟨context, phase⟩, ready, begun, went⟩
  · exact agrees.of_standing (preparing.aside stopped).standing
  · obtain ⟨rfl, current⟩ := prepare_current begun
    exact keeps went (agrees.of_standing (preparing.aside begun).standing) current

theorem standardImplementer_isAside (project : Project) (context : CycleContext) :
    Run.IsAside id (fun _ => True) (project.standardImplementer context) :=
  .bind (.ofExcept _) fun _ =>
    .bind (fun _ => ⟨rfl, rfl, [], by simp, by simp⟩) fun _ => .pure _

theorem implement_keeps (project : Project) (root : Path) (id : String) (means : Means) :
    Keeps root id project (project.implement root id means).project := by
  refine keeps_within (.bind (.of_aside (engage_isAside _)) fun _ => ?_)
  apply Lifecycle.implement_keepsAgreement
  split
  · exact .pure _
  · exact standardImplementer_isAside project _

/-- A new change has records that agree; a refused one changes nothing. -/
theorem create_keeps (project : Project) (root : Path) (id description : String) :
    Keeps root id project (project.create root id description).project := by
  unfold create
  split
  · exact .refl project
  · dsimp only
    split
    · exact .refl project
    · refine ⟨rfl, ?_, by simp [runOn, records]⟩
      intro agrees kept same
      rcases ran : Lifecycle.create id description (project.place root id)
        { files := (project.state (project.place root id)).files, store := {} } with ⟨result, last⟩
      have store_eq : last.store = kept := by simpa [records, runOn, ran] using same
      subst store_eq
      exact Lifecycle.create_agrees ran rfl

theorem removesRecords_congr {other : Project} (same : other.settings = project.settings)
    (edits : List FileEdit) : other.removesRecords edits = project.removesRecords edits := by
  simp only [removesRecords, recordFile?, same]

/-- Edits of files leave the records alone or remove them. -/
theorem records_edit (project : Project) (root : Path) (id : String) (edits : List FileEdit) :
    (project.edit (project.place root id) edits).records root id =
      if project.removesRecords edits then none else project.records root id := by
  unfold edit records
  simp

/-- An operation keeps the agreement, and the records unless it removes their file. -/
theorem after_keeps (project : Project) (root : Path) (id : String)
    (operation : ChangeOperation) :
    (after root id project operation).settings = project.settings ∧
      (project.Agrees root id → (after root id project operation).Agrees root id) ∧
      ((∀ edits, operation = .edit edits → project.removesRecords edits = false) →
        (project.records root id).isSome →
          ((after root id project operation).records root id).isSome) := by
  have of_keeps {last : Project} (keeps : Keeps root id project last) :
      last.settings = project.settings ∧
        (project.Agrees root id → last.Agrees root id) ∧
        ((∀ edits, operation = .edit edits → project.removesRecords edits = false) →
          (project.records root id).isSome → (last.records root id).isSome) :=
    ⟨keeps.settings, keeps.agrees, fun _ => keeps.recorded⟩
  cases operation with
  | create description => exact of_keeps (create_keeps project root id description)
  | cycle means =>
      exact of_keeps (keeps_within
        (onceReady_keepsAgreement project root id means Cycle.runCycle_agrees))
  | challenge means =>
      exact of_keeps (keeps_within
        (onceReady_keepsAgreement project root id means Cycle.runChallenge_agrees))
  | implement means => exact of_keeps (implement_keeps project root id means)
  | archive => exact of_keeps (keeps_within (Lifecycle.archive_keepsAgreement _))
  | reenter => exact of_keeps (keeps_within (Lifecycle.reenter_keepsAgreement _))
  | edit edits =>
      refine ⟨rfl, ?_, ?_⟩
      · intro agrees store recorded
        rw [after, records_edit] at recorded
        split at recorded
        · cases recorded
        · exact agrees store recorded
      · intro stays recorded
        rwa [after, records_edit, stays edits rfl]

/-- A history of operations keeps what each of them keeps. -/
theorem history_keeps (project : Project) (root : Path) (id : String)
    (operations : List ChangeOperation) :
    (operations.foldl (after root id) project).settings = project.settings ∧
      (project.Agrees root id → (operations.foldl (after root id) project).Agrees root id) ∧
      ((∀ edits, .edit edits ∈ operations → project.removesRecords edits = false) →
        (project.records root id).isSome →
          ((operations.foldl (after root id) project).records root id).isSome) := by
  induction operations generalizing project with
  | nil => exact ⟨rfl, fun agrees => agrees, fun _ recorded => recorded⟩
  | cons operation operations ih =>
      obtain ⟨settings, agrees, recorded⟩ := after_keeps project root id operation
      obtain ⟨laterSettings, laterAgrees, laterRecorded⟩ := ih (after root id project operation)
      refine ⟨laterSettings.trans settings, fun first => laterAgrees (agrees first), ?_⟩
      intro stays first
      refine laterRecorded ?_ (recorded ?_ first)
      · intro edits member
        rw [removesRecords_congr settings]
        exact stays edits (List.mem_cons_of_mem _ member)
      · rintro edits rfl
        exact stays edits List.mem_cons_self

/-- **The phase of a change agrees with its last critique after every history.**  A change that had
no records is created and then worked on in any order, with any agents, programs, policies and
edits, each operation giving a result or not.  Whatever is on record then agrees.  A change with a
valid id stays on record unless the file of its records is removed. -/
theorem phase_agrees_after_history (project : Project) (root : Path) (id description : String)
    (operations : List ChangeOperation) (unrecorded : project.records root id = none) :
    let last := operations.foldl (after root id) (after root id project (.create description))
    (∀ store, last.records root id = some store → ∃ change, store.find? id = some change ∧
      change.phase.AgreesWith (store.latestCritique? id)) ∧
    (Lifecycle.isChangeId id.toList = true → project.hasRecords (project.place root id) = false →
      (∀ edits, .edit edits ∈ operations → project.removesRecords edits = false) →
        (last.records root id).isSome) := by
  intro last
  have fresh : project.Agrees root id := by
    intro store recorded
    rw [unrecorded] at recorded
    cases recorded
  have created := create_keeps project root id description
  obtain ⟨-, agrees, recorded⟩ :=
    history_keeps (after root id project (.create description)) root id operations
  refine ⟨agrees (created.agrees fresh), ?_⟩
  intro named free stays
  refine recorded ?_ ?_
  · intro edits member
    rw [after, removesRecords_congr created.settings]
    exact stays edits member
  · simp [after, create, named, free, runOn, records]

end Project

/-! ### A plan that is approved -/

namespace ApprovedPlan

open PlanCycle.Cycle ChangeFolder

def root : Path := ⟨"/", ["work"]⟩

def changeId : String := "add-search"

/-- The least plan is written. -/
def writing : List FileEdit :=
  [.write (Artifact.file .proposal) (.text "#"), .write (Artifact.file .tasks) (.text leastTasks)]

/-- A critic that approves at once. -/
def means : Means :=
  { cast := some { agents := fun _ => .ready (TwoTurns.replyOf TwoTurns.approval.text) [] } }

/-- The plan is written, and then it is criticised. -/
def operations : List ChangeOperation := [.edit writing, .challenge means]

/-- The project in which the plan is written. -/
def written : Project :=
  Project.after root changeId (Project.after root changeId {} (.create "Search")) (.edit writing)

theorem state_written : ∃ log, written.state (written.place root changeId) =
    { files := leastPlan
      store := some { changes := [{ id := changeId, description := "Search" }], log } } :=
  ⟨_, rfl⟩

/-- The critic approves of the plan that was written. -/
theorem plan_is_challenged :
    ∃ store change, (Project.after root changeId written (.challenge means)).records root changeId =
        some store ∧ store.find? changeId = some change ∧ change.phase = .challenged := by
  obtain ⟨log, state⟩ := state_written
  have approved : TwoTurns.lastReview.verdict = .approved := TwoTurns.lastReview_verdict
  let change : Change := { id := changeId, description := "Search" }
  let cast : Cast :=
    { agents := fun _ => .ready (TwoTurns.replyOf TwoTurns.approval.text) [] }
  let context := written.context root change cast means TwoTurns.lister
  let before : Surroundings := ⟨leastPlan, cast.agents, {}⟩
  have recorded : written.records root changeId = some { changes := [change], log } :=
    congrArg ChangeState.store state
  have prepared : written.prepare root changeId means
      (written.start root changeId means { changes := [change], log }) =
        (.ok (context, .proposed), before.world { changes := [change], log } []) := by
    refine Project.prepare_ok_iff.2 ⟨change, cast, TwoTurns.lister, rfl, rfl, rfl, rfl, rfl, rfl, ?_⟩
    rw [Project.start, state]
    rfl
  have valid : (folderIn context before).IsValid := leastPlan_isValid _
  have critiques := TwoTurns.critiques_leastPlan (by decide : 1 ≤ context.policy.attempts) {}
    (rfl : cast.agents .critic = _) TwoTurns.lastReview_isApplicable
  have known : Store.find? { changes := [change], log } context.changeId = some change := rfl
  obtain ⟨kept, shown, ran, found⟩ := runChallenge_of_settled (fun _ _ _ _ => rfl) critiques
    (Review.not_asks_of_approved approved) valid (by decide) known rfl rfl []
  refine ⟨kept, criticised change TwoTurns.lastReview 1, ?_, found, ?_⟩
  · rw [Project.after, Project.challenge_eq, Project.within_onceReady recorded prepared ran]
    simp [Project.records, Surroundings.world]
  · change TwoTurns.lastReview.nextPhase .proposed = .challenged
    rw [nextPhase_eq, roundOutcome_of_approved approved]
    rfl

/-- The phase of the approved plan agrees with the approval. -/
theorem phase_agrees_after_approval :
    let last := operations.foldl (Project.after root changeId)
      (Project.after root changeId {} (.create "Search"))
    Project.records {} root changeId = none ∧
      ∃ store change, last.records root changeId = some store ∧ store.find? changeId = some change ∧
        change.phase = .challenged ∧ change.phase.AgreesWith (store.latestCritique? changeId) := by
  intro last
  have unrecorded : Project.records {} root changeId = none := rfl
  obtain ⟨agrees, -⟩ :=
    Project.phase_agrees_after_history {} root changeId "Search" operations unrecorded
  obtain ⟨store, change, recorded, found, challenged⟩ := plan_is_challenged
  obtain ⟨other, same, agreed⟩ := agrees store recorded
  obtain rfl := Option.some.inj (found.symm.trans same)
  exact ⟨unrecorded, store, change, recorded, found, challenged, agreed⟩

end ApprovedPlan

end PlanCycle
