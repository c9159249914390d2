/-
Module: PlanCycle.Proofs.Interruption
Purpose: What a cycle that only validates says of the last round of critiques in the history of a
  change: whether that spent its budget or was interrupted.
Main exports:
  PlanningRound, Course, Course.next, Course.Accounts, Cycle.ReportsInterruption,
  Project.exhaustion_is_of_last_round
-/
import PlanCycle.Proofs.History
import PlanCycle.Proofs.RoundRecords

namespace PlanCycle

/-! ### The last round in a history -/

/-- Whether an event is the line before the first critique of a round. -/
def Event.beginsRound (id : String) : Event → Bool
  | .line text => text == critiqueText id 1
  | _ => false

/-- A planning run that began a round of critiques: the project that it found and what it gave. -/
structure PlanningRound where
  found : Project
  report : Report CycleOutcome

/-- How many of a round's critiques were accepted. -/
def PlanningRound.critiques (round : PlanningRound) : Nat :=
  Event.criticCalls round.report.events

/-- The critiques of a change that are on record. -/
def Project.critiquesOf (project : Project) (root : Path) (id : String) : List ReviewEntry :=
  ((project.records root id).map (·.critiquesOf id)).getD []

/-- Whether a critique of a round is on record. -/
def PlanningRound.IsRecorded (round : PlanningRound) (root : Path) (id : String) : Prop :=
  (round.found.critiquesOf root id).length < (round.report.project.critiquesOf root id).length

/-- A project in the course of a history, with the last round of critiques of a change so far. -/
structure Course where
  project : Project
  round : Option PlanningRound := none

/-- What a cycle or a round of critiques gives; other operations plan nothing. -/
def Project.planned? (root : Path) (id : String) (project : Project) :
    ChangeOperation → Option (Report CycleOutcome)
  | .cycle means => some (project.cycle root id means)
  | .challenge means => some (project.challenge root id means)
  | _ => none

/-- The round that an operation begins, if it begins one. -/
def Project.round? (root : Path) (id : String) (project : Project) (operation : ChangeOperation) :
    Option PlanningRound :=
  ((project.planned? root id operation).filter (·.events.any (Event.beginsRound id))).map
    (PlanningRound.mk project)

/-- The course of a history after one more operation. -/
def Course.next (root : Path) (id : String) (course : Course) (operation : ChangeOperation) :
    Course where
  project := course.project.after root id operation
  round := (course.project.round? root id operation).or course.round

/-- A new round that is begun is the last one from then on. -/
theorem Course.next_challenge {root : Path} {id : String} {means : Means} (course : Course)
    {report : Report CycleOutcome} (ran : course.project.challenge root id means = report)
    (begins : report.events.any (Event.beginsRound id) = true) :
    course.next root id (.challenge means) = ⟨report.project, some ⟨course.project, report⟩⟩ := by
  subst ran
  simp [next, Project.round?, Project.planned?, Project.after, Option.filter_some, begins]

/-- Whether an operation edits files or is a planning run with a given budget of critiques. -/
def ChangeOperation.IsPlanning (settings : Settings) (budget : Int) : ChangeOperation → Prop
  | .cycle means | .challenge means =>
      (means.policy.getD (.ofSettings settings)).planningIterations = budget
  | .edit _ => True
  | _ => False

namespace Project

open PlanCycle.Cycle

variable {project : Project} {root : Path} {id : String} {means : Means}

theorem critiquesOf_of_recorded {store : Store} (recorded : project.records root id = some store) :
    project.critiquesOf root id = store.critiquesOf id := by
  simp [critiquesOf, recorded]

/-- What a planning run on a change with records adds to the critiques on record. -/
structure AddsCritiques (root : Path) (id : String) (budget : Int) (before after : Store)
    (report : Report CycleOutcome) (added : List ReviewEntry) : Prop where
  critiques : after.critiquesOf id = before.critiquesOf id ++ added
  numbered : ∀ entry, added.getLast? = some entry → entry.iteration = added.length
  unmoved : added = [] → after.standing id = before.standing id
  begins : added ≠ [] → report.events.any (Event.beginsRound id) = true
  enough : added.length ≤ Event.criticCalls report.events
  within : (Event.criticCalls report.events : Int) ≤ budget
  failed : added ≠ [] → ∀ kind step message, report.result = .ok (.error kind step message) →
    (after.standing id).1 = some .proposed ∧
      ∀ entry, added.getLast? = some entry → entry.IsOpen → entry.iteration < budget

/-- Once a cycle is ready, what plans adds critiques. -/
theorem onceReady_adds {body : CycleContext → Phase → Run CycleOutcome} {budget : Int}
    (plans : ∀ {context phase world result last}, body context phase world = (result, last) →
      Plans context phase world result last)
    (policy : (means.policy.getD (.ofSettings project.settings)).planningIterations = budget)
    {store : Store} {result : Except Stop CycleOutcome} {last : World}
    (ran : project.onceReady root id means body (project.start root id means store) =
      (result, last)) :
    ∃ added, Adds id 1 budget.toNat (project.start root id means store) last added ∧
      (added ≠ [] → ∀ kind step message, result = .ok (.error kind step message) →
        (last.store.standing id).1 = some .proposed ∧
          ∀ entry, added.getLast? = some entry → entry.IsOpen → entry.iteration < budget) := by
  have preparing : Run.IsAside id (· ≠ .critic) (project.prepare root id means) :=
    prepare_isAside project root id means
  rcases Run.bind_cases ran with ⟨_, stopped, -⟩ | ⟨⟨context, phase⟩, ready, prepared, went⟩
  · exact ⟨[], (Adds.of_aside (preparing.aside stopped)).mono (Nat.zero_le _),
      fun some => absurd rfl some⟩
  · obtain ⟨about, current⟩ := prepare_current prepared
    obtain ⟨change, cast, lister, -, -, -, -, rfl, -⟩ := prepare_ok_iff.1 prepared
    obtain ⟨added, adds, failed⟩ := (plans went).adds (by rw [about]; exact current)
    rw [about] at adds failed
    have same : (project.context root change cast means lister).policy.planningIterations =
        budget := policy
    rw [same] at adds failed
    exact ⟨added, ((Adds.of_aside (preparing.aside prepared)).append adds).mono (by omega), failed⟩

/-- A planning run changes nothing without records, and with records it adds critiques. -/
theorem planned_adds {report : Report CycleOutcome} {budget : Int}
    (run : report = project.cycle root id means ∨ report = project.challenge root id means)
    (policy : (means.policy.getD (.ofSettings project.settings)).planningIterations = budget)
    (some_critique : 1 ≤ budget) :
    (project.records root id = none ∧ report.project = project ∧ report.events = []) ∨
      ∃ before after added, project.records root id = some before ∧
        report.project.records root id = some after ∧
        AddsCritiques root id budget before after report added := by
  have ready : ∃ body : CycleContext → Phase → Run CycleOutcome,
      (∀ {context phase world result last}, body context phase world = (result, last) →
        Plans context phase world result last) ∧
      report = project.within root id means fun _ => project.onceReady root id means body := by
    rcases run with rfl | rfl
    · exact ⟨Cycle.runCycle, runCycle_plans, cycle_eq project root id means⟩
    · exact ⟨Cycle.runChallenge, runChallenge_plans, challenge_eq project root id means⟩
  obtain ⟨body, plans, rfl⟩ := ready
  cases recorded : project.records root id with
  | none =>
      rw [within_of_unrecorded recorded]
      exact .inl ⟨rfl, rfl, rfl⟩
  | some store =>
      rcases ran : project.onceReady root id means body (project.start root id means store) with
        ⟨result, last⟩
      obtain ⟨added, adds, failed⟩ := onceReady_adds plans policy ran
      rw [within_of_recorded recorded ran]
      refine .inr ⟨store, last.store, added, rfl, by simp [records], adds.critiques, ?_,
        adds.unmoved, ?_, ?_, ?_, failed⟩
      · intro entry found
        have numbered := adds.numbered entry found
        push_cast at numbered
        omega
      · intro some_added
        refine List.any_eq_true.mpr ⟨_, adds.shown some_added, ?_⟩
        simp [Event.beginsRound]
      · have enough := adds.enough
        simpa [start, Event.criticCalls] using enough
      · have within := adds.within
        have none_before : Event.criticCalls (project.start root id means store).events = 0 := rfl
        rw [none_before] at within
        dsimp only
        omega

/-! ### What the records say of the last round -/

end Project

/-- What the records of a change tell of the last round in its history: nothing was criticised if
there was none, and otherwise, if that round left a critique, an open one with the last number stands
for a budget that the round spent without an error, and an error left the change proposed. -/
def Course.Accounts (course : Course) (root : Path) (id : String) (budget : Int) : Prop :=
  ∀ store, course.project.records root id = some store →
    (course.round = none → store.critiquesOf id = []) ∧
      ∀ round, course.round = some round → round.IsRecorded root id →
        (∀ entry, store.latestCritique? id = some entry → entry.IsOpen →
          budget ≤ entry.iteration → (round.critiques : Int) = budget ∧
            ∀ kind step message, round.report.result ≠ .ok (.error kind step message)) ∧
        ∀ kind step message, round.report.result = .ok (.error kind step message) →
          (store.standing id).1 = some .proposed

section
variable {course : Course} {root : Path} {id : String} {budget : Int}

/-- The critiques on record tell of the last round whatever run comes next. -/
theorem Course.Accounts.planned {means : Means} {report : Report CycleOutcome}
    (accounts : course.Accounts root id budget)
    (run : report = course.project.cycle root id means ∨
      report = course.project.challenge root id means)
    (policy : (means.policy.getD (.ofSettings course.project.settings)).planningIterations = budget)
    (some_critique : 1 ≤ budget) :
    Accounts
      { project := report.project
        round := ((if report.events.any (Event.beginsRound id) then
          some ⟨course.project, report⟩ else none).or course.round) } root id budget := by
  rcases Project.planned_adds run policy some_critique with
    ⟨unrecorded, same, nothing⟩ | ⟨before, after, added, recorded, left, adds⟩
  · intro store found
    rw [show report.project = course.project from same, unrecorded] at found
    cases found
  intro store found
  obtain rfl : after = store := Option.some.inj (left.symm.trans found)
  by_cases begins : report.events.any (Event.beginsRound id) = true
  · simp only [begins, if_true, Option.some_or]
    refine ⟨nofun, fun round same kept => ?_⟩
    obtain rfl := Option.some.inj same
    have some_added : added ≠ [] := by
      rintro rfl
      unfold PlanningRound.IsRecorded at kept
      rw [Project.critiquesOf_of_recorded recorded, Project.critiquesOf_of_recorded left,
        adds.critiques, List.append_nil] at kept
      exact Nat.lt_irrefl _ kept
    have latest : after.latestCritique? id = added.getLast? := by
      rw [Store.latestCritique?_eq, adds.critiques, List.getLast?_append,
        List.getLast?_eq_some_getLast some_added]
      rfl
    rw [latest]
    refine ⟨fun entry found wants spent => ⟨?_, fun kind step message failed => ?_⟩,
      fun kind step message failed => (adds.failed some_added kind step message failed).1⟩
    · have numbered := adds.numbered entry found
      have enough := adds.enough
      have within := adds.within
      change (Event.criticCalls report.events : Int) = budget
      omega
    · have early := (adds.failed some_added kind step message failed).2 entry found wants
      omega
  · have none_added : added = [] := by
      by_cases empty : added = []
      · exact empty
      · exact absurd (adds.begins empty) begins
    subst none_added
    rw [if_neg begins, Option.none_or, Store.latestCritique?_eq, adds.critiques, List.append_nil,
      adds.unmoved rfl]
    exact accounts before recorded

/-- The critiques on record tell of the last round after any further operation. -/
theorem Course.Accounts.next {operation : ChangeOperation}
    (accounts : course.Accounts root id budget)
    (planning : operation.IsPlanning course.project.settings budget) (some_critique : 1 ≤ budget) :
    (course.next root id operation).Accounts root id budget := by
  have planned {report : Report CycleOutcome} {means : Means}
      (given : course.project.planned? root id operation = some report)
      (left : course.project.after root id operation = report.project)
      (run : report = course.project.cycle root id means ∨
        report = course.project.challenge root id means)
      (policy : (means.policy.getD (.ofSettings course.project.settings)).planningIterations =
        budget) : (course.next root id operation).Accounts root id budget := by
    have after := accounts.planned run policy some_critique
    unfold Course.next Project.round?
    rw [given, left]
    by_cases begins : report.events.any (Event.beginsRound id) = true
    · simpa [Option.filter_some, begins] using after
    · simpa [Option.filter_some, begins] using after
  cases operation with
  | cycle means => exact planned rfl rfl (.inl rfl) planning
  | challenge means => exact planned rfl rfl (.inr rfl) planning
  | edit edits =>
      intro store recorded
      change (course.project.edit (course.project.place root id) edits).records root id =
        some store at recorded
      rw [Project.records_edit] at recorded
      split at recorded
      · cases recorded
      · exact accounts store recorded
  | create description => exact planning.elim
  | implement means => exact planning.elim
  | archive => exact planning.elim
  | reenter => exact planning.elim

/-- The critiques on record tell of the last round after any history of planning runs and edits. -/
theorem Course.Accounts.history (operations : List ChangeOperation)
    (accounts : course.Accounts root id budget)
    (planning : ∀ operation ∈ operations,
      operation.IsPlanning course.project.settings budget)
    (some_critique : 1 ≤ budget) :
    (operations.foldl (Course.next root id) course).Accounts root id budget ∧
      (operations.foldl (Course.next root id) course).project.settings =
        course.project.settings := by
  induction operations generalizing course with
  | nil => exact ⟨accounts, rfl⟩
  | cons operation operations ih =>
      obtain ⟨first, later⟩ := List.forall_mem_cons.mp planning
      have settings : (course.next root id operation).project.settings = course.project.settings :=
        (Project.after_keeps course.project root id operation).1
      rw [← settings] at later ⊢
      exact ih (accounts.next first some_critique) later

end

/-- What is reported of a proposed plan that needs another round of critiques: just that if its
documents are valid, and otherwise that they are not. -/
def Cycle.ReportsInterruption (folder : ChangeFolder) (outcome : CycleOutcome) : Prop :=
  (folder.IsValid → ∃ message, outcome = .error .state "challenge" message) ∧
    (¬folder.IsValid → ∃ message, outcome = .error .validation "validate" message)

/-- A proposed plan whose budget is not exhausted needs another round. -/
theorem Cycle.ReadsAs.reportsInterruption {folder : ChangeFolder} {policy : CyclePolicy}
    {latest : Option ReviewEntry} {outcome : CycleOutcome}
    (reads : ReadsAs folder policy latest .proposed outcome)
    (unspent : ∀ issues, outcome ≠ .exhausted issues) : ReportsInterruption folder outcome := by
  cases reads with
  | @invalid _ message _ broken => exact ⟨fun valid => absurd valid broken, fun _ => ⟨message, rfl⟩⟩
  | approved later => exact absurd rfl (Phase.mem_approved_iff.1 later).1
  | proposed valid same =>
      refine ⟨fun _ => ?_, fun broken => absurd valid broken⟩
      rcases proposedOutcome_cases policy latest with ⟨entry, _, _, _, _, spent⟩ | ⟨message, needs⟩
      · exact absurd (same.trans spent) (unspent _)
      · exact ⟨message, same.trans needs⟩

namespace Project

open PlanCycle.Cycle

variable {project : Project} {root : Path} {id : String} {means : Means}

/-- **An exhausted budget is one that the last round of critiques spent.**  In a history of cycles,
rounds and edits under one budget, on a change that was not criticised before, let the last round
have left a critique on record, whatever became of it.  A cycle that only validates then finds the
budget exhausted only if that round made all the critiques of its budget.  If the round ended with
an error, or made fewer and left the change proposed, the cycle reports that another one is needed,
or that the documents are not valid. -/
theorem exhaustion_is_of_last_round {operations : List ChangeOperation} {budget : Int}
    {course : Course} {store : Store} {change : Change} {outcome : CycleOutcome}
    (fresh : ∀ first, project.records root id = some first → first.critiquesOf id = [])
    (some_critique : 1 ≤ budget)
    (planning : ∀ operation ∈ operations, operation.IsPlanning project.settings budget)
    (history : course = operations.foldl (Course.next root id) { project })
    (kept : ∀ round, course.round = some round → round.IsRecorded root id)
    (recorded : course.project.records root id = some store)
    (found : store.find? id = some change)
    (validates : Validates change.phase (course.project.documents root id))
    (policy : (means.policy.getD (.ofSettings project.settings)).planningIterations = budget)
    (ended : (course.project.cycle root id means).result = .ok outcome) :
    (∀ issues, outcome = .exhausted issues →
        ∃ round, course.round = some round ∧ (round.critiques : Int) = budget) ∧
      ∀ round, course.round = some round →
        ((∃ kind step message, round.report.result = .ok (.error kind step message)) ∨
          ((round.critiques : Int) < budget ∧ change.phase = .proposed)) →
          ReportsInterruption (course.project.documents root id) outcome := by
  have before : Course.Accounts { project } root id budget := by
    intro first known
    refine ⟨fun _ => fresh first known, fun round impossible => ?_⟩
    cases impossible
  obtain ⟨accounts, settings⟩ := before.history operations planning some_critique
  rw [← history] at accounts settings
  obtain ⟨unbegun, told⟩ := accounts store recorded
  have reads := validating_cycle_readsAs recorded found validates ended
  have standing : (store.standing id).1 = some change.phase := by simp [Store.standing, found]
  -- An exhausted budget is read from an open critique with the last number.
  have spent (issues : Nat) (same : outcome = .exhausted issues) :
      ∃ round, course.round = some round ∧ (round.critiques : Int) = budget ∧
        ∀ kind step message, round.report.result ≠ .ok (.error kind step message) := by
    rw [same] at reads
    obtain ⟨-, -, entry, latest, verdict, named, -, enough⟩ := reads.of_exhausted
    rw [settings, policy] at enough
    cases begun : course.round with
    | none =>
        rw [Store.latestCritique?_eq, unbegun begun] at latest
        cases latest
    | some round =>
        obtain ⟨counted, unfailed⟩ :=
          (told round begun (kept round begun)).1 entry latest ⟨verdict, named⟩ enough
        exact ⟨round, rfl, counted, unfailed⟩
  refine ⟨fun issues same => ?_, fun round begun interrupted => ?_⟩
  · obtain ⟨round, begun, counted, -⟩ := spent issues same
    exact ⟨round, begun, counted⟩
  have unspent (issues : Nat) : outcome ≠ .exhausted issues := by
    intro same
    obtain ⟨other, again, counted, unfailed⟩ := spent issues same
    obtain rfl := Option.some.inj (begun.symm.trans again)
    rcases interrupted with ⟨kind, step, message, failed⟩ | ⟨early, -⟩
    · exact unfailed kind step message failed
    · omega
  have proposed : change.phase = .proposed := by
    rcases interrupted with ⟨kind, step, message, failed⟩ | ⟨-, proposed⟩
    · have left := (told round begun (kept round begun)).2 kind step message failed
      exact Option.some.inj (standing.symm.trans left)
    · exact proposed
  rw [proposed] at reads
  exact reads.reportsInterruption unspent

end Project

/-! ### A round that is interrupted before its first critique -/

namespace TwoTurns

open PlanCycle.Cycle ChangeFolder

/-- A critic that objects again and again. -/
def stubborn : Role → Agent
  | .critic => .ready (replyOf objection.text) []
  | role => cast.agents role

/-- A critic that never answers. -/
def silent : Role → Agent
  | .critic => .ready { answer := .error (.failure (.invocation none "no connection")) } []
  | role => cast.agents role

/-- The text in the file of the critiques, if the folder is the least plan with that file. -/
def critiquesBeside? : Folder → Option String
  | [proposal, tasks, (path, .file (.text text))] =>
      if leastPlan = [proposal, tasks] ∧ path = Artifact.file .challenge then some text else none
  | _ => none

theorem eq_of_critiquesBeside? {files : Folder} {text : String}
    (beside : critiquesBeside? files = some text) : files = criticisedPlan text := by
  unfold critiquesBeside? at beside
  split at beside
  · rename_i proposal tasks path text
    split at beside
    · rename_i same
      obtain ⟨plan, rfl⟩ := same
      cases beside
      rw [criticisedPlan, plan]
      rfl
    · cases beside
  · cases beside

/-- What is left of the change after objections: they are in their file and on record, and the last
of them spent the budget.  The trace is that of a round in which so many answers were accepted. -/
structure LeavesObjections (after : Except Stop CycleOutcome × World) (accepted : Nat) : Prop where
  files : (critiquesBeside? after.2.files).isSome = true
  known : (after.2.store.find? change.id).map (fun known => (known.phase, known.description)) =
    some (.proposed, change.description)
  critiques : (after.2.store.critiquesOf change.id).length = 2
  spent : proposedOutcome context.policy (after.2.store.latestCritique? change.id) = .exhausted 1
  begins : after.2.events.any (Event.beginsRound change.id) = true
  accepted : Event.criticCalls after.2.events = accepted

instance (after : Except Stop CycleOutcome × World) (accepted : Nat) :
    Decidable (LeavesObjections after accepted) :=
  decidable_of_iff
    ((critiquesBeside? after.2.files).isSome = true ∧
      (after.2.store.find? change.id).map (fun known => (known.phase, known.description)) =
        some (.proposed, change.description) ∧
      (after.2.store.critiquesOf change.id).length = 2 ∧
      proposedOutcome context.policy (after.2.store.latestCritique? change.id) = .exhausted 1 ∧
      after.2.events.any (Event.beginsRound change.id) = true ∧
      Event.criticCalls after.2.events = accepted)
    ⟨fun ⟨files, known, critiques, spent, begins, accepted⟩ =>
      ⟨files, known, critiques, spent, begins, accepted⟩,
    fun ⟨files, known, critiques, spent, begins, accepted⟩ =>
      ⟨files, known, critiques, spent, begins, accepted⟩⟩

namespace LeavesObjections

variable {after : Except Stop CycleOutcome × World} {accepted : Nat}

theorem plan (leaves : LeavesObjections after accepted) :
    ∃ text, after.2.files = criticisedPlan text := by
  obtain ⟨text, beside⟩ := Option.isSome_iff_exists.mp leaves.files
  exact ⟨text, eq_of_critiquesBeside? beside⟩

theorem found (leaves : LeavesObjections after accepted) :
    ∃ known, after.2.store.find? change.id = some known ∧ known.phase = .proposed ∧
      known.description = change.description := by
  obtain ⟨known, found, same⟩ := Option.map_eq_some_iff.mp leaves.known
  exact ⟨known, found, Prod.mk.inj same⟩

end LeavesObjections

/-- A round after the objections in which the critic never answers. -/
def silence : Except Stop CycleOutcome × World :=
  critiqueRound context (checkedWith (round stubborn).2.files (round stubborn).2.store silent)

set_option maxRecDepth 100000 in
/-- Two objections spend the budget, and a round without an answer ends with an error and leaves
what they left. -/
theorem rounds_leave_objections :
    LeavesObjections (round stubborn) 2 ∧
      silence.1.toOption = some (.error .transient "challenge"
        "challenge failed after 3 attempts: Agent exited with status None: no connection") ∧
      LeavesObjections silence 0 := by decide +kernel

theorem round_stubborn : LeavesObjections (round stubborn) 2 := rounds_leave_objections.1

theorem silence_interrupts : LeavesObjections silence 0 := rounds_leave_objections.2.2

theorem result_silence : ∃ kind step message, silence.1 = .ok (.error kind step message) :=
  ⟨_, _, _, ok_of_toOption rounds_leave_objections.2.1⟩

/-- The project after a round. -/
def projectAfter (after : Except Stop CycleOutcome × World) : Project :=
  project.setState (project.place root change.id)
    { files := after.2.files, store := some after.2.store }

/-- What is reported of a round. -/
def reportOf (after : Except Stop CycleOutcome × World) : Report CycleOutcome :=
  { result := after.1, project := projectAfter after, events := after.2.events }

section
variable (after : Except Stop CycleOutcome × World)

theorem result_reportOf : (reportOf after).result = after.1 := rfl

theorem project_reportOf : (reportOf after).project = projectAfter after := rfl

theorem events_reportOf : (reportOf after).events = after.2.events := rfl

theorem state_projectAfter : (projectAfter after).state (project.place root change.id) =
    { files := after.2.files, store := some after.2.store } :=
  Project.state_setState _ _ _

theorem records_projectAfter :
    (projectAfter after).records root change.id = some after.2.store :=
  congrArg ChangeState.store (state_projectAfter after)

end

theorem LeavesObjections.documents {after : Except Stop CycleOutcome × World} {accepted : Nat}
    (leaves : LeavesObjections after accepted) :
    ((projectAfter after).documents root change.id).IsValid := by
  obtain ⟨text, plan⟩ := leaves.plan
  have files := congrArg ChangeState.files (state_projectAfter after)
  unfold Project.documents
  rw [show (projectAfter after).place root change.id = project.place root change.id from rfl,
    files, plan]
  exact criticisedPlan_isValid _ _

/-- A cycle finds the budget exhausted after objections. -/
theorem LeavesObjections.cycle {after : Except Stop CycleOutcome × World} {accepted : Nat}
    (leaves : LeavesObjections after accepted) :
    ((projectAfter after).cycle root change.id means).result = .ok (.exhausted 1) := by
  obtain ⟨known, found, proposed, -⟩ := leaves.found
  have able : (projectAfter after).HasPlayers means := ⟨cast, rfl, rfl⟩
  have read := Project.cycle_of_valid (records_projectAfter after) found able listed
    leaves.documents
  rw [read, proposed]
  exact congrArg Except.ok leaves.spent

theorem challenge_stubborn :
    project.challenge root change.id (meansOf stubborn) = reportOf (round stubborn) :=
  challenge_eq_round stubborn

theorem challenge_silent :
    (projectAfter (round stubborn)).challenge root change.id (meansOf silent) =
      reportOf silence := by
  obtain ⟨known, found, proposed, described⟩ := round_stubborn.found
  obtain ⟨text, plan⟩ := round_stubborn.plan
  have settings : (projectAfter (round stubborn)).settings = project.settings := rfl
  have clean : checkup ⟨context.place, (round stubborn).2.files⟩ = ⟨0, .ok ⟨[]⟩⟩ := by
    rw [plan]
    exact checkup_criticisedPlan _ text
  have again : (projectAfter (round stubborn)).setState (project.place root change.id)
      { files := silence.2.files, store := some silence.2.store } = projectAfter silence := by
    rw [projectAfter, projectAfter, Project.setState_setState]
  have whole := challenge_eq_critiqueRound silent settings (state_projectAfter _) found
    proposed described clean
  rw [← silence, again] at whole
  exact whole

/-- After the round of objections that is the last one. -/
theorem next_stubborn :
    Course.next root change.id { project } (.challenge (meansOf stubborn)) =
      ⟨projectAfter (round stubborn), some ⟨project, reportOf (round stubborn)⟩⟩ := by
  have begins : (reportOf (round stubborn)).events.any (Event.beginsRound change.id) = true := by
    rw [events_reportOf]
    exact round_stubborn.begins
  rw [Course.next_challenge { project } challenge_stubborn begins, project_reportOf]

/-- After the round without an answer that is the last one. -/
theorem next_silent (last : Option PlanningRound) :
    Course.next root change.id ⟨projectAfter (round stubborn), last⟩ (.challenge (meansOf silent)) =
      ⟨projectAfter silence, some ⟨projectAfter (round stubborn), reportOf silence⟩⟩ := by
  have begins : (reportOf silence).events.any (Event.beginsRound change.id) = true := by
    rw [events_reportOf]
    exact silence_interrupts.begins
  rw [Course.next_challenge ⟨projectAfter (round stubborn), last⟩ challenge_silent begins,
    project_reportOf]

/-- A budget that a round of objections spent is found exhausted. -/
theorem spent_budget_is_exhausted :
    let course := [ChangeOperation.challenge (meansOf stubborn)].foldl
      (Course.next root change.id) { project }
    (course.project.cycle root change.id means).result = .ok (.exhausted 1) ∧
      ∃ round, course.round = some round ∧ (round.critiques : Int) = 2 := by
  obtain ⟨known, found, -⟩ := round_stubborn.found
  let operations : List ChangeOperation := [.challenge (meansOf stubborn)]
  have history : operations.foldl (Course.next root change.id) { project } =
      ⟨projectAfter (round stubborn), some ⟨project, reportOf (round stubborn)⟩⟩ :=
    next_stubborn
  have ended := round_stubborn.cycle
  have written := isWritten_iff.1 round_stubborn.documents.isWritten
  have fresh (first : Store) (known : project.records root change.id = some first) :
      first.critiquesOf change.id = [] := by
    obtain rfl := Option.some.inj (TwoTurns.recorded.symm.trans known)
    rfl
  have planning : ∀ operation ∈ operations, operation.IsPlanning project.settings 2 := by
    intro operation member
    rw [List.mem_singleton.mp member]
    rfl
  have kept : PlanningRound.IsRecorded ⟨project, reportOf (round stubborn)⟩ root change.id := by
    unfold PlanningRound.IsRecorded
    rw [project_reportOf, Project.critiquesOf_of_recorded TwoTurns.recorded,
      Project.critiquesOf_of_recorded (records_projectAfter _), round_stubborn.critiques]
    exact Nat.zero_lt_succ _
  have policy : (means.policy.getD (.ofSettings project.settings)).planningIterations = 2 := rfl
  obtain ⟨exhausts, -⟩ := Project.exhaustion_is_of_last_round fresh (by decide) planning
    history.symm (fun last begun => Option.some.inj begun ▸ kept) (records_projectAfter _)
    found (.inr written) policy ended
  rw [show [ChangeOperation.challenge (meansOf stubborn)] = operations from rfl, history]
  exact ⟨ended, exhausts 1 rfl⟩

/-- **A budget is found exhausted although the last round was interrupted.**  After a round that
spent its budget, another one ends with an error before its first critique; a cycle under the same
policy then reads from the records of the earlier round that the budget is exhausted. -/
theorem interrupted_round_is_exhausted :
    let course := [ChangeOperation.challenge (meansOf stubborn), .challenge (meansOf silent)].foldl
      (Course.next root change.id) { project }
    (∃ round, course.round = some round ∧ round.critiques = 0 ∧
        ∃ kind step message, round.report.result = .ok (.error kind step message)) ∧
      (course.project.documents root change.id).IsValid ∧
      (course.project.cycle root change.id means).result = .ok (.exhausted 1) := by
  rw [List.foldl_cons, List.foldl_cons, List.foldl_nil, next_stubborn, next_silent]
  refine ⟨⟨_, rfl, ?_, ?_⟩, silence_interrupts.documents, silence_interrupts.cycle⟩
  · unfold PlanningRound.critiques
    rw [events_reportOf]
    exact silence_interrupts.accepted
  · rw [result_reportOf]
    exact result_silence

end TwoTurns

end PlanCycle
