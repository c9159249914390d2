/-
Module: PlanCycle.Proofs.SeparateChanges
Purpose: Changes that keep their records in their own folders do not affect each other: what is
  asked of one of them gives the same and leaves the same files and records, whatever is asked of
  others in between.  Of changes that keep them in one place only one can be created.
Main exports:
  ChangeRequest, Project.ask, Project.serve, Project.SameAt, Settings.changeFolder_inj,
  Settings.recordPath_inj, Project.ask_alike, Project.ask_spares,
  Project.changes_do_not_affect_each_other, Project.create_of_shared
-/
import PlanCycle.Proofs.Agreement
import PlanCycle.Proofs.ValidatingCycle

namespace PlanCycle

variable {α β : Type}

/-! ### Requests -/

/-- What can be asked of a change.  Agents and programs that it names work in the folder of the
change. -/
inductive ChangeRequest where
  | create (description : String)
  | cycle (means : Means)
  | challenge (means : Means)
  | implement (means : Means)
  | archive
  | reenter
  | status

/-- What a request gives. -/
inductive ChangeAnswer where
  | outcome (outcome : CycleOutcome)
  | status (status : ChangeStatus)

/-- The same report with another view of its result. -/
def Report.map (view : α → β) (report : Report α) : Report β :=
  { result := report.result.map view, project := report.project, events := report.events }

namespace Project

/-- Asks something of a change. -/
def ask (project : Project) (root : Path) (id : String) : ChangeRequest → Report ChangeAnswer
  | .create description => (project.create root id description).map .status
  | .cycle means => (project.cycle root id means).map .outcome
  | .challenge means => (project.challenge root id means).map .outcome
  | .implement means => (project.implement root id means).map .status
  | .archive => (project.archive root id).map .status
  | .reenter => (project.reenter root id).map .status
  | .status => (project.status root id).map .status

/-- Asks one thing after the other, each of some change: the results with what was shown and done,
and the project in the end. -/
def serve (root : Path) :
    Project → List (String × ChangeRequest) →
      List (Except Stop ChangeAnswer × List Event) × Project
  | project, [] => ([], project)
  | project, (id, request) :: script =>
    let report := project.ask root id request
    let (answers, last) := serve root report.project script
    ((report.result, report.events) :: answers, last)

/-- Whether two projects agree on their configuration and on the files and records in a place. -/
structure SameAt (place : Path) (first second : Project) : Prop where
  settings : second.settings = first.settings
  environment : second.environment = first.environment
  state : second.state place = first.state place

namespace SameAt

variable {place : Path} {first second third : Project}

theorem refl (place : Path) (project : Project) : SameAt place project project := ⟨rfl, rfl, rfl⟩

theorem symm (same : SameAt place first second) : SameAt place second first :=
  ⟨same.settings.symm, same.environment.symm, same.state.symm⟩

theorem trans (one : SameAt place first second) (two : SameAt place second third) :
    SameAt place first third :=
  ⟨two.settings.trans one.settings, two.environment.trans one.environment,
    two.state.trans one.state⟩

theorem setState (same : SameAt place first second) (state : ChangeState) :
    SameAt place (first.setState place state) (second.setState place state) :=
  ⟨same.settings, same.environment, by rw [state_setState, state_setState]⟩

/-- What is put elsewhere does not matter, if the records are kept elsewhere too. -/
theorem of_setState {project : Project} {other : Path} (differs : other ≠ place)
    (apart : project.settings.recordPath other ≠ project.settings.recordPath place)
    (state : ChangeState) : SameAt other project (project.setState place state) :=
  ⟨rfl, rfl, congrArg₂ ChangeState.mk (files_setState_of_ne project differs state)
    (store_setState_of_ne project apart state)⟩

theorem place_eq (same : SameAt place first second) (root : Path) (id : String) :
    second.place root id = first.place root id := by
  unfold Project.place
  rw [same.settings]

end SameAt

end Project

/-! ### Folders of changes -/

/-- Whether a text consists of small letters, digits and dashes. -/
def IsPlainId (id : String) : Prop :=
  ∀ c ∈ id.toList, c.isLower = true ∨ c.isDigit = true ∨ c = '-'

instance (id : String) : Decidable (IsPlainId id) :=
  decidable_of_iff (id.toList.all (fun c => c.isLower || c.isDigit || c == '-') = true)
    (by simp [IsPlainId, or_assoc])

namespace Path

variable {text : List Char}

theorem slashParts_of_none (slashless : '/' ∉ text) : slashParts text = [text] := by
  induction text with
  | nil => rfl
  | cons c text ih =>
      rw [List.mem_cons, not_or] at slashless
      obtain ⟨first, rest⟩ := slashless
      rw [slashParts, if_neg (Ne.symm first), ih rest]

theorem startOf_of_none (slashless : '/' ∉ text) : startOf text = "" := by
  unfold startOf
  split
  · exact absurd List.mem_cons_self slashless
  · exact absurd List.mem_cons_self slashless
  · exact absurd List.mem_cons_self slashless
  · rfl

end Path

/-- A plain id is the name of its folder. -/
theorem IsPlainId.ofText {id : String} (plain : IsPlainId id) :
    Path.ofText id = { names := if id = "" then [] else [id] } := by
  have away (c : Char) (strange : c.isLower = false ∧ c.isDigit = false ∧ c ≠ '-') :
      c ∉ id.toList := by
    intro member
    obtain ⟨noLetter, noDigit, noDash⟩ := strange
    rcases plain c member with letter | digit | dash
    · rw [noLetter] at letter
      cases letter
    · rw [noDigit] at digit
      cases digit
    · exact noDash dash
  have slashless : '/' ∉ id.toList := away '/' (by decide)
  have named : id ≠ "." := by
    rintro rfl
    exact away '.' (by decide) (by decide)
  unfold Path.ofText
  rw [Path.startOf_of_none slashless, Path.slashParts_of_none slashless, List.map_singleton,
    String.ofList_toList]
  by_cases empty : id = ""
  · simp [empty]
  · simp [empty, named]

/-- Changes with different plain ids have different folders. -/
theorem Settings.changeFolder_inj {settings : Settings} {root : Path} {first second : String}
    (firstPlain : IsPlainId first) (secondPlain : IsPlainId second)
    (same : settings.changeFolder root first = settings.changeFolder root second) :
    first = second := by
  unfold changeFolder Path.child Path.join at same
  rw [firstPlain.ofText, secondPlain.ofText, if_pos rfl, if_pos rfl, Path.mk.injEq] at same
  have names := List.append_cancel_left same.2
  dsimp only at names
  by_cases noFirst : first = ""
  · by_cases noSecond : second = ""
    · rw [noFirst, noSecond]
    · simp [noFirst, noSecond] at names
  · by_cases noSecond : second = ""
    · simp [noFirst, noSecond] at names
    · simpa [noFirst, noSecond] using names

/-- Names other than two dots lead on, one after the other. -/
theorem Path.foldl_enter {names : List String} (onward : ".." ∉ names) (base : Path) :
    names.foldl enter base = { base with names := base.names ++ names } := by
  induction names generalizing base with
  | nil => simp
  | cons name names ih =>
      rw [List.mem_cons, not_or] at onward
      obtain ⟨first, rest⟩ := onward
      rw [List.foldl_cons, ih rest, enter, if_pos (.inl (Ne.symm first))]
      simp

/-- Records that are kept inside are at the same place in each folder. -/
theorem Settings.recordPath_of_inside {settings : Settings}
    (inside : settings.keepsRecordsInside = true) (place : Path) :
    settings.recordPath place =
      { place with names := place.names ++ (Path.ofText settings.stateFile).names } := by
  unfold keepsRecordsInside at inside
  simp only [Bool.and_eq_true, beq_iff_eq, Bool.not_eq_true', List.contains_eq_mem,
    decide_eq_false_iff_not] at inside
  obtain ⟨⟨relative, -⟩, onward⟩ := inside
  unfold recordPath Path.resolve
  rw [if_pos relative, Path.foldl_enter onward]

/-- Records that are kept inside are kept apart. -/
theorem Settings.recordPath_inj {settings : Settings} (inside : settings.keepsRecordsInside = true)
    {first second : Path} (same : settings.recordPath first = settings.recordPath second) :
    first = second := by
  rw [recordPath_of_inside inside, recordPath_of_inside inside, Path.mk.injEq] at same
  obtain ⟨start, names⟩ := same
  obtain ⟨_, _⟩ := first
  obtain ⟨_, _⟩ := second
  exact congrArg₂ Path.mk start (List.append_cancel_right names)

/-! ### Requests look at one change only -/

/-- Whether two reports tell the same about a place: the same result, the same events, and projects
that agree there. -/
structure Report.Alike (place : Path) (first second : Report α) : Prop where
  result : second.result = first.result
  events : second.events = first.events
  project : Project.SameAt place first.project second.project

theorem Report.Alike.map {place : Path} {first second : Report α} (view : α → β)
    (alike : Report.Alike place first second) :
    Report.Alike place (first.map view) (second.map view) :=
  ⟨congrArg (Except.map view) alike.result, alike.events, alike.project⟩

namespace Project

section
variable {first second : Project} {root : Path} {id : String}

/-- The run that has the tasks of a change implemented. -/
def implementing (project : Project) (root : Path) (id : String) (means : Means) :
    Run ChangeStatus := do
  (means.cast.getD .unassigned).engage
  Lifecycle.implement (project.implementContext root id means)
    (project.findImplementer means (project.implementContext root id means))

/-- A run on a change looks at its files and records only. -/
theorem runOn_alike (same : SameAt (first.place root id) first second) (store : Store)
    (means : Means) (run : Run α) :
    Report.Alike (first.place root id) (first.runOn (first.place root id) store means run)
      (second.runOn (first.place root id) store means run) := by
  have start : (second.state (first.place root id)).files =
      (first.state (first.place root id)).files := congrArg ChangeState.files same.state
  unfold runOn
  rw [start]
  exact ⟨rfl, rfl, same.setState _⟩

theorem within_alike (same : SameAt (first.place root id) first second) (means : Means)
    {run other : Path → Run α} (runs : other = run) :
    Report.Alike (first.place root id) (first.within root id means run)
      (second.within root id means other) := by
  have recorded : (second.state (first.place root id)).store =
      (first.state (first.place root id)).store := congrArg ChangeState.store same.state
  unfold within
  dsimp only
  rw [runs, same.place_eq root id, recorded]
  cases (first.state (first.place root id)).store with
  | none => exact ⟨rfl, rfl, same⟩
  | some store => exact runOn_alike same store means _

/-- What is asked of a change looks at the configuration, and at the files and records of that
change. -/
theorem ask_alike (same : SameAt (first.place root id) first second) (request : ChangeRequest) :
    Report.Alike (first.place root id) (first.ask root id request)
      (second.ask root id request) := by
  -- Runs that are made from a project look at its configuration.
  have configured {γ : Type} (make : Project → Path → Run γ)
      (configures : ∀ project, make project =
        make { settings := project.settings, environment := project.environment }) :
      make second = make first := by
    rw [configures second, configures first, same.settings, same.environment]
  cases request with
  | create description =>
      refine Report.Alike.map _ ?_
      have held : second.hasRecords (first.place root id) =
          first.hasRecords (first.place root id) := by
        unfold hasRecords recordFile?
        rw [same.state, same.settings]
      unfold create
      split
      · exact ⟨rfl, rfl, same⟩
      · dsimp only
        rw [same.place_eq root id, held]
        split
        · exact ⟨rfl, rfl, same⟩
        · exact runOn_alike same {} {} _
  | cycle means =>
      have runs := configured (fun project _ => project.onceReady root id means Cycle.runCycle)
        fun _ => rfl
      exact (within_alike same means runs).map ChangeAnswer.outcome
  | challenge means =>
      have runs := configured (fun project _ => project.onceReady root id means Cycle.runChallenge)
        fun _ => rfl
      exact (within_alike same means runs).map ChangeAnswer.outcome
  | implement means =>
      have runs := configured (fun project _ => project.implementing root id means) fun _ => rfl
      exact (within_alike same means runs).map ChangeAnswer.status
  | archive => exact (within_alike same {} rfl).map _
  | reenter => exact (within_alike same {} rfl).map _
  | status => exact (within_alike same {} rfl).map _

/-- What is asked of a change exchanges at most its files and records. -/
theorem ask_project (project : Project) (root : Path) (id : String) (request : ChangeRequest) :
    (project.ask root id request).project = project ∨
      ∃ state, (project.ask root id request).project =
        project.setState (project.place root id) state := by
  have exchanged {γ : Type} (means : Means) (run : Path → Run γ) :
      (project.within root id means run).project = project ∨
        ∃ state, (project.within root id means run).project =
          project.setState (project.place root id) state := by
    unfold within
    dsimp only
    split
    · exact .inl rfl
    · exact .inr ⟨_, rfl⟩
  cases request with
  | create description =>
      change (project.create root id description).project = project ∨
        ∃ state, (project.create root id description).project =
          project.setState (project.place root id) state
      unfold create
      split
      · exact .inl rfl
      · dsimp only
        split
        · exact .inl rfl
        · exact .inr ⟨_, rfl⟩
  | cycle means => exact exchanged means fun _ => project.onceReady root id means Cycle.runCycle
  | challenge means =>
      exact exchanged means fun _ => project.onceReady root id means Cycle.runChallenge
  | implement means => exact exchanged means fun _ => project.implementing root id means
  | archive => exact exchanged {} (Lifecycle.archive id)
  | reenter => exact exchanged {} (Lifecycle.reenter id)
  | status => exact exchanged {} (Lifecycle.status id)

theorem settings_ask (project : Project) (root : Path) (id : String) (request : ChangeRequest) :
    (project.ask root id request).project.settings = project.settings := by
  rcases project.ask_project root id request with same | ⟨state, same⟩
  · rw [same]
  · rw [same]
    rfl

theorem place_ask (project : Project) (root : Path) (asked id : String) (request : ChangeRequest) :
    (project.ask root asked request).project.place root id = project.place root id := by
  unfold place
  rw [settings_ask]

/-- What is asked of a change leaves all other places as they are, if records are kept inside. -/
theorem ask_spares {project : Project} (inside : project.settings.keepsRecordsInside = true)
    (root : Path) (id : String) (request : ChangeRequest) {other : Path}
    (differs : other ≠ project.place root id) :
    SameAt other project (project.ask root id request).project := by
  rcases project.ask_project root id request with same | ⟨state, same⟩
  · rw [same]
    exact .refl other project
  · rw [same]
    have apart : project.settings.recordPath other ≠
        project.settings.recordPath (project.place root id) := fun together =>
      differs (Settings.recordPath_inj inside together)
    exact .of_setState differs apart state

end

/-! ### Requests in turn -/

/-- The answers to the requests that are about one change. -/
def answersOf (id : String) (script : List (String × ChangeRequest))
    (answers : List (Except Stop ChangeAnswer × List Event)) :
    List (Except Stop ChangeAnswer × List Event) :=
  ((script.zip answers).filter (·.1.1 = id)).map (·.2)

/-- What is asked of one change among others gives and leaves what it does alone. -/
theorem serve_alike {root : Path} {id : String} (plain : IsPlainId id)
    (script : List (String × ChangeRequest)) (others : ∀ entry ∈ script, IsPlainId entry.1)
    {project lone : Project} (inside : project.settings.keepsRecordsInside = true)
    (same : SameAt (project.place root id) project lone) :
    answersOf id script (serve root project script).1 =
        (serve root lone (script.filter (·.1 = id))).1 ∧
      SameAt (project.place root id) (serve root project script).2
        (serve root lone (script.filter (·.1 = id))).2 := by
  induction script generalizing project lone with
  | nil => exact ⟨rfl, same⟩
  | cons entry script ih =>
      obtain ⟨asked, request⟩ := entry
      obtain ⟨askedPlain, restPlain⟩ := List.forall_mem_cons.mp others
      have placed := project.place_ask root asked id request
      have still : (project.ask root asked request).project.settings.keepsRecordsInside = true := by
        rw [settings_ask, inside]
      by_cases own : asked = id
      · subst own
        have alike := ask_alike same request
        obtain ⟨answers, last⟩ := ih restPlain still (placed.symm ▸ alike.project)
        have step : answersOf asked ((asked, request) :: script)
              (serve root project ((asked, request) :: script)).1 =
            ((project.ask root asked request).result, (project.ask root asked request).events) ::
              answersOf asked script
                (serve root (project.ask root asked request).project script).1 := by
          simp [answersOf, serve]
        rw [List.filter_cons_of_pos (by simp), step, answers, ← alike.result, ← alike.events]
        exact ⟨rfl, placed ▸ last⟩
      · have elsewhere : project.place root id ≠ project.place root asked := fun together =>
          own (Settings.changeFolder_inj askedPlain plain together.symm)
        have spared := ask_spares inside root asked request elsewhere
        obtain ⟨answers, last⟩ := ih restPlain still (placed.symm ▸ spared.symm.trans same)
        have step : answersOf id ((asked, request) :: script)
              (serve root project ((asked, request) :: script)).1 =
            answersOf id script
              (serve root (project.ask root asked request).project script).1 := by
          simp [answersOf, serve, own]
        rw [List.filter_cons_of_neg (by simpa using own), step, answers]
        exact ⟨rfl, placed ▸ last⟩

/-- **Changes do not affect each other where each keeps its records in its own folder.**  Whatever
is asked of changes in turn, each of them gives the same answers, shows and does the same meanwhile,
and has the same files and records in the end as if the others had been left alone. -/
theorem changes_do_not_affect_each_other (project : Project)
    (inside : project.settings.keepsRecordsInside = true) (root : Path)
    (script : List (String × ChangeRequest)) (plain : ∀ entry ∈ script, IsPlainId entry.1)
    (id : String) (named : IsPlainId id) :
    let ran := serve root project script
    let alone := serve root project (script.filter (·.1 = id))
    answersOf id script ran.1 = alone.1 ∧
      ran.2.state (project.place root id) = alone.2.state (project.place root id) := by
  obtain ⟨answers, last⟩ :=
    serve_alike named script plain inside (.refl (project.place root id) project)
  exact ⟨answers, last.state.symm⟩

/-- A change that is worked on while another one is created, asked for and archived too early. -/
theorem search_is_apart_from_login :
    let root : Path := ⟨"/", ["work"]⟩
    let project : Project := {}
    let script : List (String × ChangeRequest) :=
      [("add-search", .create "Search"), ("fix-login", .create "Login"), ("add-search", .cycle {}),
        ("fix-login", .archive), ("add-search", .challenge {}), ("fix-login", .status)]
    let ran := serve root project script
    let alone := serve root project (script.filter (·.1 = "add-search"))
    project.settings.keepsRecordsInside = true ∧ (∀ entry ∈ script, IsPlainId entry.1) ∧
      IsPlainId "add-search" ∧ alone.1.length = 3 ∧ answersOf "add-search" script ran.1 = alone.1 ∧
      ran.2.state (project.place root "add-search") =
        alone.2.state (project.place root "add-search") := by
  intro root project script ran alone
  have inside : project.settings.keepsRecordsInside = true := by decide
  have named : IsPlainId "add-search" := by decide
  have other : IsPlainId "fix-login" := by decide
  have plain : ∀ entry ∈ script, IsPlainId entry.1 := by simp [script, named, other]
  exact ⟨inside, plain, named, rfl,
    changes_do_not_affect_each_other project inside root script plain _ named⟩

/-! ### Records in one place -/

/-- Where the records of two changes are kept at one path, one that is created keeps the other one
from being created. -/
theorem create_of_shared {project : Project} {root : Path} {id other : String}
    (valid : Lifecycle.isChangeId other.toList = true)
    (shared : project.settings.recordPath (project.place root other) =
      project.settings.recordPath (project.place root id))
    {description : String} {status : ChangeStatus}
    (created : (project.create root id description).result = .ok status) (otherWords : String) :
    ((project.create root id description).project.create root other otherWords).result =
      .error (.failure (.changeExists other)) := by
  obtain ⟨state, exchanged, store, recorded⟩ : ∃ state,
      (project.create root id description).project =
        project.setState (project.place root id) state ∧ ∃ store, state.store = some store := by
    unfold create at created ⊢
    split at created
    · cases created
    · rename_i named
      rw [if_neg named]
      dsimp only at created ⊢
      split at created
      · cases created
      · rename_i absent
        rw [if_neg absent]
        exact ⟨_, rfl, _, rfl⟩
  have held : (project.setState (project.place root id) state).hasRecords
      (project.place root other) = true := by
    unfold hasRecords
    dsimp only
    rw [store_setState_of_eq project shared, recorded]
    rfl
  rw [exchanged]
  unfold create
  rw [if_neg (by simp [valid])]
  dsimp only
  rw [place_setState, if_pos held]

/-- A change without records is created if it can be read which documents it needs. -/
theorem create_of_unrecorded {project : Project} {root : Path} {id : String}
    (valid : Lifecycle.isChangeId id.toList = true)
    (unrecorded : project.hasRecords (project.place root id) = false)
    (readable : ∃ artifacts, (project.documents root id).required = .ok artifacts)
    (description : String) :
    ∃ status, (project.create root id description).result = .ok status := by
  obtain ⟨artifacts, required⟩ := readable
  let fresh : World := { files := (project.documents root id).files }
  obtain ⟨store, changes, -, ran⟩ := Lifecycle.create_eq_status (show fresh.store = {} from rfl) id
    description (project.place root id)
  have known : store.find? id = some { id, description } := by simp [Store.find?, changes]
  obtain ⟨status, shown⟩ : ∃ status,
      Lifecycle.statusOf id (project.documents root id) store = .ok status := by
    unfold Lifecycle.statusOf
    rw [known]
    dsimp only
    rw [required]
    exact ⟨_, rfl⟩
  unfold create
  rw [if_neg (by simp [valid])]
  dsimp only
  rw [unrecorded, if_neg (by decide)]
  exact ⟨status, (congrArg Prod.fst ran).trans shown⟩

/-- Two changes whose records are kept in one place, next to their folders: once the first is
created, the second one cannot be, and alone it could. -/
theorem login_keeps_search_out :
    let root : Path := ⟨"/", ["work"]⟩
    let settings : Settings := { stateFile := "../state.db" }
    let notes : Folder := [(["a.md"], .file (.text "x"))]
    let project : Project :=
      { settings, folders := [(settings.changeFolder root "login", notes),
          (settings.changeFolder root "search", notes)] }
    let script : List (String × ChangeRequest) :=
      [("login", .create "Login"), ("search", .create "Search")]
    let ran := serve root project script
    let alone := serve root project (script.filter (·.1 = "search"))
    (∀ entry ∈ script, IsPlainId entry.1) ∧ IsPlainId "search" ∧
      (answersOf "search" script ran.1).map (·.1) = [.error (.failure (.changeExists "search"))] ∧
      ∃ status, alone.1.map (·.1) = [.ok (.status status)] := by
  intro root settings notes project script ran alone
  have named : IsPlainId "login" := by decide
  have other : IsPlainId "search" := by decide
  have plain : ∀ entry ∈ script, IsPlainId entry.1 := by simp [script, named, other]
  have shared : project.settings.recordPath (project.place root "search") =
      project.settings.recordPath (project.place root "login") := by decide
  have outside : project.recordFile? = none := by decide
  have unrecorded (id : String) : project.hasRecords (project.place root id) = false := by
    unfold hasRecords
    rw [outside]
    rfl
  obtain ⟨first, begun⟩ := create_of_unrecorded (by decide) (unrecorded "login") ⟨_, rfl⟩ "Login"
  obtain ⟨status, alone⟩ := create_of_unrecorded (by decide) (unrecorded "search") ⟨_, rfl⟩ "Search"
  have refused := create_of_shared (by decide) shared begun "Search"
  refine ⟨plain, other, ?_, status, ?_⟩
  · exact congrArg (fun result => [result.map ChangeAnswer.status]) refused
  · exact congrArg (fun result => [result.map ChangeAnswer.status]) alone

end Project

end PlanCycle
