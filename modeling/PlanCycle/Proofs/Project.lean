/-
Module: PlanCycle.Proofs.Project
Purpose: The records of a change in its project, and what a run on the change needs and leaves.
Main exports:
  Project.state_setState, Project.records, Project.within_of_recorded, Project.players,
  Project.HasPlayers, Project.prepare_ok_iff, Project.within_onceReady
-/
import PlanCycle.Proofs.Standing

namespace PlanCycle

variable {α : Type}

namespace Project

/-! ### The state of a change in its project -/

section
variable {α : Type} (things : List (Path × α)) (path : Path)

/-- What is put at a path stands there. -/
theorem at?_put (thing : Option α) :
    at? (without path things ++ (thing.map ((path, ·))).toList) path = thing := by
  have absent : (without path things).find? (·.1 == path) = none := by
    simp [without]
  cases thing <;> simp [at?, List.find?_append, absent]

/-- What is put at a path has no part in other paths. -/
theorem at?_put_of_ne {other : Path} (differs : other ≠ path) (thing : Option α) :
    at? (without path things ++ (thing.map ((path, ·))).toList) other = at? things other := by
  have kept : (without path things).find? (·.1 == other) = things.find? (·.1 == other) := by
    unfold without
    rw [List.find?_filter]
    congr 1
    funext entry
    by_cases same : entry.1 = other
    · simp [same, differs]
    · simp [same]
  have absent : (thing.map ((path, ·))).toList.find? (·.1 == other) = none := by
    cases thing <;> simp [Ne.symm differs]
  unfold at?
  rw [List.find?_append, absent, Option.or_none, kept]

end

@[simp] theorem without_without {α : Type} (path : Path) (things : List (Path × α)) :
    without path (without path things) = without path things := by
  simp [without]

theorem without_append {α : Type} (path : Path) (first second : List (Path × α)) :
    without path (first ++ second) = without path first ++ without path second :=
  List.filter_append ..

@[simp] theorem without_here {α : Type} (path : Path) (thing : Option α) :
    without path (thing.map ((path, ·))).toList = [] := by
  cases thing <;> simp [without]

@[simp] theorem state_setState (project : Project) (place : Path) (state : ChangeState) :
    (project.setState place state).state place = state := by
  have files : at? (project.setState place state).folders place = some state.files :=
    at?_put _ _ (some state.files)
  have records : at? (project.setState place state).stores (project.settings.recordPath place) =
      state.store := at?_put _ _ _
  unfold Project.state
  rw [files]
  exact congrArg (ChangeState.mk state.files) records

/-- The files of other changes stay as they are. -/
theorem files_setState_of_ne (project : Project) {place other : Path} (differs : other ≠ place)
    (state : ChangeState) :
    ((project.setState place state).state other).files = (project.state other).files :=
  congrArg (·.getD []) (at?_put_of_ne _ _ differs (some state.files))

/-- Records that are kept at another path stay as they are. -/
theorem store_setState_of_ne (project : Project) {place other : Path}
    (differs : project.settings.recordPath other ≠ project.settings.recordPath place)
    (state : ChangeState) :
    ((project.setState place state).state other).store = (project.state other).store :=
  at?_put_of_ne _ _ differs _

/-- Records that are kept at the same path are the same. -/
theorem store_setState_of_eq (project : Project) {place other : Path}
    (same : project.settings.recordPath other = project.settings.recordPath place)
    (state : ChangeState) : ((project.setState place state).state other).store = state.store := by
  have stands : ((project.setState place state).state other).store =
      ((project.setState place state).state place).store :=
    congrArg (at? (project.setState place state).stores) same
  rw [stands, state_setState]

/-- Of two states in one place the second stays. -/
@[simp] theorem setState_setState (project : Project) (place : Path)
    (first second : ChangeState) :
    (project.setState place first).setState place second = project.setState place second := by
  have files : without place [(place, first.files)] = [] := without_here place (some first.files)
  simp only [setState, without_append, without_without, files, without_here, List.append_nil]

@[simp] theorem place_setState (project : Project) (place root : Path) (state : ChangeState)
    (id : String) : (project.setState place state).place root id = project.place root id := rfl

/-- The records of a change, if it has any. -/
def records (project : Project) (root : Path) (id : String) : Option Store :=
  (project.state (project.place root id)).store

/-- Where a run on a change starts. -/
def start (project : Project) (root : Path) (id : String) (means : Means) (store : Store) :
    World :=
  { files := (project.state (project.place root id)).files, store, processes := means.processes }

theorem within_of_unrecorded {project : Project} {root : Path} {id : String} {means : Means}
    {run : Path → Run α} (unrecorded : project.records root id = none) :
    project.within root id means run =
      { result := .error (.failure (.changeNotFound id)), project } := by
  unfold records at unrecorded
  unfold within
  simp only [unrecorded]

/-- A run on a change with records starts from them and leaves its own. -/
theorem within_of_recorded {project : Project} {root : Path} {id : String} {means : Means}
    {run : Path → Run α} {store : Store} {result : Except Stop α} {last : World}
    (recorded : project.records root id = some store)
    (ran : run (project.place root id) (project.start root id means store) = (result, last)) :
    project.within root id means run =
      { result
        project := project.setState (project.place root id)
          { files := last.files, store := some last.store }
        events := last.events } := by
  unfold records at recorded
  unfold start at ran
  unfold within runOn
  simp only [recorded, ran]

/-! ### Getting a cycle ready -/

/-- Who plays the roles: those that are named, or the configured programs. -/
def players (project : Project) (means : Means) : Except Stop Cast :=
  match means.cast with
  | some cast => .ok cast
  | none => Cast.standard project.settings project.environment

/-- Whether the players are known and the generator can go on with a conversation. -/
def HasPlayers (project : Project) (means : Means) : Prop :=
  ∃ cast, project.players means = .ok cast ∧ cast.generatorProvider = .gemini

/-- The players depend on who is named only. -/
theorem HasPlayers.of_cast {project : Project} {means again : Means}
    (able : project.HasPlayers means) (same : again.cast = means.cast) :
    project.HasPlayers again := by
  unfold HasPlayers players at able ⊢
  rw [same]
  exact able

theorem prepare_eq (project : Project) (root : Path) (id : String) (means : Means) :
    project.prepare root id means = (do
      let change ← Run.session (Session.load id)
      let cast ← Run.ofExcept (project.players means)
      let lister ← project.lister
      cast.engage
      if cast.generatorProvider ≠ .gemini then
        Run.fail (.unresumableGenerator cast.generatorProvider)
      else return (project.context root change cast means lister, change.phase)) := by
  unfold prepare players
  cases means.cast with
  | none => rfl
  | some cast => rfl

theorem lister_ok_iff {project : Project} {world last : World} {lister : SessionLister} :
    project.lister world = (.ok lister, last) ↔
      SessionLister.standard? project.settings = some lister ∧ last = world := by
  unfold Project.lister
  cases SessionLister.standard? project.settings with
  | none => simp
  | some known => simp [eq_comm]

/-- A cycle is ready exactly if the change is on record and the players are known, of whom the
generator can go on with a conversation. -/
theorem prepare_ok_iff {project : Project} {root : Path} {id : String} {means : Means}
    {world last : World} {context : CycleContext} {phase : Phase} :
    project.prepare root id means world = (.ok (context, phase), last) ↔
      ∃ change cast lister, world.store.find? id = some change ∧
        project.players means = .ok cast ∧
        SessionLister.standard? project.settings = some lister ∧
        cast.generatorProvider = .gemini ∧
        context = project.context root change cast means lister ∧ phase = change.phase ∧
        last = { world with agents := cast.agents } := by
  rw [prepare_eq]
  constructor
  · intro ran
    obtain ⟨change, _, loaded, ran⟩ := Run.bind_ok ran
    rcases Run.session_cases loaded with ⟨_, _, impossible, _⟩ | ⟨_, _, worked, same, rfl⟩
    · cases impossible
    cases same
    obtain ⟨found, rfl⟩ := Session.load_ok_iff.1 worked
    obtain ⟨cast, _, known, ran⟩ := Run.bind_ok ran
    rw [Run.ofExcept_apply] at known
    obtain ⟨played, rfl⟩ := Prod.mk.inj known
    obtain ⟨lister, _, listing, ran⟩ := Run.bind_ok ran
    obtain ⟨listed, rfl⟩ := lister_ok_iff.1 listing
    obtain ⟨_, _, engaged, ran⟩ := Run.bind_ok ran
    cases engaged
    split at ran
    · cases ran
    · rename_i resumable
      cases ran
      exact ⟨change, cast, lister, found, played, listed, by simpa using resumable, rfl, rfl, rfl⟩
  · rintro ⟨change, cast, lister, found, played, listed, resumable, rfl, rfl, rfl⟩
    rw [Run.bind_of_ok (Run.session_of_ok (Session.load_ok_iff.2 ⟨found, rfl⟩))]
    have known : Run.ofExcept (project.players means) world = (.ok cast, world) := by
      rw [Run.ofExcept_apply, played]
    refine (Run.bind_of_ok known).trans ?_
    rw [Run.bind_of_ok (lister_ok_iff.2 ⟨listed, rfl⟩)]
    refine (Run.bind_of_ok (rfl : cast.engage world = (.ok (), _))).trans ?_
    rw [if_neg (by simp [resumable])]
    rfl

theorem engage_isAside {id : String} {mayAsk : Role → Prop} (cast : Cast) :
    Run.IsAside id mayAsk cast.engage :=
  fun _ => ⟨rfl, rfl, [], by simp [Cast.engage], by simp⟩

theorem prepare_isAside {mayAsk : Role → Prop} (project : Project) (root : Path) (id : String)
    (means : Means) : Run.IsAside id mayAsk (project.prepare root id means) := by
  rw [prepare_eq]
  refine .bind (.session (.load id)) fun change => .bind (.ofExcept _) fun cast => ?_
  refine .bind ?_ fun lister => .bind (engage_isAside cast) fun _ => ?_
  · unfold Project.lister
    split
    · exact .pure _
    · exact .stop _
  · split
    · exact .stop _
    · exact .pure _

/-- A cycle that is ready is about the change, in the phase that is on record. -/
theorem prepare_current {project : Project} {root : Path} {id : String} {means : Means}
    {world last : World} {context : CycleContext} {phase : Phase}
    (ran : project.prepare root id means world = (.ok (context, phase), last)) :
    context.changeId = id ∧ (last.store.standing id).1 = some phase := by
  obtain ⟨change, cast, lister, found, -, -, -, rfl, rfl, rfl⟩ := prepare_ok_iff.1 ran
  exact ⟨Store.id_of_find? found, by simp [Store.standing, found]⟩

/-- A run on a cycle that is ready. -/
def onceReady (project : Project) (root : Path) (id : String) (means : Means)
    (body : CycleContext → Phase → Run α) : Run α := do
  let (context, phase) ← project.prepare root id means
  body context phase

theorem cycle_eq (project : Project) (root : Path) (id : String) (means : Means) :
    project.cycle root id means =
      project.within root id means fun _ => project.onceReady root id means Cycle.runCycle := rfl

theorem challenge_eq (project : Project) (root : Path) (id : String) (means : Means) :
    project.challenge root id means =
      project.within root id means fun _ =>
        project.onceReady root id means Cycle.runChallenge := rfl

/-- What an implementation does not alter. -/
def implementContext (project : Project) (root : Path) (id : String) (means : Means) :
    CycleContext :=
  project.context root { id } (means.cast.getD .unassigned) means ⟨[], 0⟩

/-- How the implementer is found: somebody who is named is there already. -/
def findImplementer (project : Project) (means : Means) (context : CycleContext) :
    Run CycleContext :=
  match means.cast with
  | some _ => Run.done context
  | none => project.standardImplementer context

theorem implement_eq (project : Project) (root : Path) (id : String) (means : Means) :
    project.implement root id means =
      project.within root id means fun _ => (do
        (means.cast.getD .unassigned).engage
        Lifecycle.implement (project.implementContext root id means)
          (project.findImplementer means (project.implementContext root id means))) := rfl

/-- A run that gives a value once a cycle is ready goes on from where that got ready. -/
theorem onceReady_ok {project : Project} {root : Path} {id : String} {means : Means}
    {body : CycleContext → Phase → Run α} {value : α}
    (ended : (project.within root id means fun _ =>
      project.onceReady root id means body).result = .ok value) :
    ∃ store context phase ready last, project.records root id = some store ∧
      project.prepare root id means (project.start root id means store) =
        (.ok (context, phase), ready) ∧
      body context phase ready = (.ok value, last) ∧
      (project.within root id means fun _ => project.onceReady root id means body) =
        { result := .ok value
          project := project.setState (project.place root id)
            { files := last.files, store := some last.store }
          events := last.events } := by
  cases recorded : project.records root id with
  | none =>
      rw [within_of_unrecorded recorded] at ended
      cases ended
  | some store =>
      rcases ran : project.onceReady root id means body (project.start root id means store) with
        ⟨result, last⟩
      have whole : (project.within root id means fun _ =>
          project.onceReady root id means body) = _ := within_of_recorded recorded ran
      rw [whole] at ended ⊢
      cases ended
      obtain ⟨⟨context, phase⟩, ready, prepared, went⟩ := Run.bind_ok ran
      exact ⟨store, context, phase, ready, last, rfl, prepared, went, rfl⟩

/-- A run on a change with records gives what its body gives once the cycle is ready. -/
theorem within_onceReady {project : Project} {root : Path} {id : String} {means : Means}
    {body : CycleContext → Phase → Run α} {store : Store} {context : CycleContext}
    {phase : Phase} {ready last : World} {result : Except Stop α}
    (recorded : project.records root id = some store)
    (prepared : project.prepare root id means (project.start root id means store) =
      (.ok (context, phase), ready)) (went : body context phase ready = (result, last)) :
    (project.within root id means fun _ => project.onceReady root id means body) =
      { result
        project := project.setState (project.place root id)
          { files := last.files, store := some last.store }
        events := last.events } :=
  within_of_recorded recorded ((Run.bind_of_ok prepared).trans went)

end Project

end PlanCycle
