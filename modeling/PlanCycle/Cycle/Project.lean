/-
Module: PlanCycle.Cycle.Project
Purpose: The changes of a project, and what can be asked of each.
Main exports:
  Project, ChangeState, Cast, Report, Project.create, Project.cycle, Project.challenge,
  Project.implement, Project.archive, Project.reenter, Project.status, Project.list
-/
import PlanCycle.Cycle.Lifecycle

namespace PlanCycle

/-- The files of a change, and the records that are kept where its own would be. -/
structure ChangeState where
  files : Folder := []
  store : Option Store := none
deriving Inhabited

/-- A project: its configuration, the folders of its changes, and the files of records.  The
folders stand by their paths, and so do the records: the configuration says where those of a change
are. -/
structure Project where
  settings : Settings := {}
  environment : Environment := []
  folders : List (Path × Folder) := []
  stores : List (Path × Store) := []

/-- Who plays the roles. -/
structure Cast where
  agents : Role → Agent
  criticName : String := "codex"
  generatorProvider : Provider := .gemini
  criticProvider : Provider := .codex
  implementerProvider : Provider := .claude

/-- What was asked of a project gave: a result, the project afterwards and what was shown and
done. -/
structure Report (α : Type) where
  result : Except Stop α
  project : Project
  events : List Event := []

/-- What a run may use that is not part of the project. -/
structure Means where
  /-- Who plays the roles; the configured programs if nobody is named. -/
  cast : Option Cast := none
  /-- The configured policy if none is given. -/
  policy : Option CyclePolicy := none
  processes : Processes := {}
  console : Console := {}

namespace Cast

/-- Nobody in particular. -/
def unassigned : Cast := { agents := fun _ => default }

/-- The configured programs. -/
def standard (settings : Settings) (environment : Environment) : Except Stop Cast := do
  let find (role : Role) := (AgentSetup.resolve settings environment role).mapError Stop.ofRole
  let generator ← find .generator
  let critic ← find .critic
  let implementer ← find .implementer
  .ok
    { agents := fun
        | .generator => .program generator
        | .critic => .program critic
        | .implementer => .program implementer
      criticName := critic.provider.name
      generatorProvider := generator.provider
      criticProvider := critic.provider
      implementerProvider := implementer.provider }

/-- Lets a cast play in a run. -/
def engage (cast : Cast) : Run Unit := fun world => (.ok (), { world with agents := cast.agents })

end Cast

namespace Project

/-- The folder of a change. -/
def place (project : Project) (root : Path) (id : String) : Path :=
  project.settings.changeFolder root id

/-- What stands at a path, of things by their paths. -/
def at? {α : Type} (things : List (Path × α)) (path : Path) : Option α :=
  (things.find? (·.1 == path)).map (·.2)

/-- Things by their paths without the one at a path. -/
def without {α : Type} (path : Path) (things : List (Path × α)) : List (Path × α) :=
  things.filter (·.1 != path)

/-- What is there for a change. -/
def state (project : Project) (place : Path) : ChangeState where
  files := (at? project.folders place).getD []
  store := at? project.stores (project.settings.recordPath place)

/-- Puts the files and the records of a change in their places. -/
def setState (place : Path) (state : ChangeState) (project : Project) : Project :=
  let records := project.settings.recordPath place
  { project with
    folders := without place project.folders ++ [(place, state.files)]
    stores := without records project.stores ++ (state.store.map ((records, ·))).toList }

/-- Where the records of a change are kept in its folder, if they are kept there. -/
def recordFile? (project : Project) : Option FilePath :=
  if project.settings.keepsRecordsInside then some (Path.ofText project.settings.stateFile).names
  else none

/-- Whether there is a file for the records of a change. -/
def hasRecords (project : Project) (place : Path) : Bool :=
  let state := project.state place
  state.store.isSome ||
    project.recordFile?.any fun file => (state.files.entry? file).isSome

/-- A run on a change with the given records. -/
def runOn {α : Type} (project : Project) (place : Path) (store : Store) (means : Means)
    (run : Run α) : Report α :=
  let start : World :=
    { files := (project.state place).files, store, processes := means.processes }
  let (result, world) := run start
  { result, events := world.events
    project := project.setState place { files := world.files, store := some world.store } }

/-- A run on a change whose records can be opened. -/
def within {α : Type} (project : Project) (root : Path) (id : String) (means : Means)
    (run : Path → Run α) : Report α :=
  let place := project.place root id
  match (project.state place).store with
  | none => { result := .error (.failure (.changeNotFound id)), project }
  | some store => project.runOn place store means (run place)

/-- What a run on a change does not alter. -/
def context (project : Project) (root : Path) (change : Change) (cast : Cast)
    (means : Means) (lister : SessionLister) : CycleContext where
  changeId := change.id
  root := root
  place := project.place root change.id
  prices := project.settings.prices
  policy := means.policy.getD (.ofSettings project.settings)
  description := change.description
  criticName := cast.criticName
  generatorProvider := cast.generatorProvider
  criticProvider := cast.criticProvider
  implementerProvider := cast.implementerProvider
  lister := lister
  console := means.console

/-- The program that lists conversations. -/
def lister (project : Project) : Run SessionLister :=
  match SessionLister.standard? project.settings with
  | some lister => Run.done lister
  | none => Run.stop (.breakdown .unfinishedCommand)

/-- Gets a cycle ready: the change, its agents and its policy.  The generator has to be one
that can go on with an earlier conversation. -/
def prepare (project : Project) (root : Path) (id : String) (means : Means) :
    Run (CycleContext × Phase) := do
  let change ← Run.session (Session.load id)
  let cast ← match means.cast with
    | some cast => Run.done cast
    | none => Run.ofExcept (Cast.standard project.settings project.environment)
  let lister ← project.lister
  cast.engage
  if cast.generatorProvider ≠ .gemini then
    Run.fail (.unresumableGenerator cast.generatorProvider)
  else return (project.context root change cast means lister, change.phase)

/-- A planning cycle. -/
def cycle (project : Project) (root : Path) (id : String) (means : Means) :
    Report CycleOutcome :=
  project.within root id means fun _ => do
    let (context, phase) ← project.prepare root id means
    Cycle.runCycle context phase

/-- A new round of critiques. -/
def challenge (project : Project) (root : Path) (id : String) (means : Means) :
    Report CycleOutcome :=
  project.within root id means fun _ => do
    let (context, phase) ← project.prepare root id means
    Cycle.runChallenge context phase

/-- The configured implementer, put to work. -/
def standardImplementer (project : Project) (context : CycleContext) : Run CycleContext := do
  let setup ← Run.ofExcept
    ((AgentSetup.resolve project.settings project.environment .implementer).mapError Stop.ofRole)
  fun world =>
    (.ok (), { world with
      agents := AgentCall.withAgent .implementer (.program setup) world.agents })
  return { context with implementerProvider := setup.provider }

/-- The implementation of the pending tasks. -/
def implement (project : Project) (root : Path) (id : String) (means : Means) :
    Report ChangeStatus :=
  project.within root id means fun _ => do
    let cast : Cast := means.cast.getD .unassigned
    cast.engage
    let context := project.context root { id } cast means ⟨[], 0⟩
    let implementer := match means.cast with
      | some _ => Run.done context
      | none => project.standardImplementer context
    Lifecycle.implement context implementer

/-- Archives a change. -/
def archive (project : Project) (root : Path) (id : String) : Report ChangeStatus :=
  project.within root id {} (Lifecycle.archive id)

/-- Proposes a rejected change again. -/
def reenter (project : Project) (root : Path) (id : String) : Report ChangeStatus :=
  project.within root id {} (Lifecycle.reenter id)

/-- The status of a change. -/
def status (project : Project) (root : Path) (id : String) : Report ChangeStatus :=
  project.within root id {} (Lifecycle.status id)

/-- Creates a change. -/
def create (project : Project) (root : Path) (id description : String) : Report ChangeStatus :=
  if !Lifecycle.isChangeId id.toList then
    { result := .error (.failure (.invalidChangeId id)), project }
  else
    let place := project.place root id
    if project.hasRecords place then { result := .error (.failure (.changeExists id)), project }
    else project.runOn place {} {} (Lifecycle.create id description place)

/-- The names of the folders in which there are changes, in order. -/
def names (project : Project) (root : Path) : List String :=
  let base := project.settings.changesRoot root
  let found := project.folders.filterMap fun entry =>
    if project.hasRecords entry.1 ∧ entry.1.start = base.start ∧
        entry.1.names.dropLast = base.names then entry.1.names.getLast?
    else none
  found.mergeSort (· ≤ ·)

/-- The status of each change of a project. -/
def list (project : Project) (root : Path) : Except Stop (List ChangeStatus) :=
  (project.names root).mapM fun id => (project.status root id).result

/-- Whether a file of a change, or a file of records, stands at a path. -/
def hasFile (project : Project) (path : Path) : Bool :=
  (at? project.stores path).isSome ||
    project.folders.any fun (place, files) =>
      place.start == path.start &&
        ((files.map (·.1)).filter files.isFile).any fun file => place.names ++ file == path.names

/-- Whether edits of the files of a change remove the file of its records. -/
def removesRecords (project : Project) (edits : List FileEdit) : Bool :=
  project.recordFile?.any fun file => edits.contains (.remove file)

/-- The project after edits of the files of a change.  Removing the file of its records
removes the records. -/
def edit (project : Project) (place : Path) (edits : List FileEdit) : Project :=
  let state := project.state place
  project.setState place
    { files := state.files.edited edits
      store := if project.removesRecords edits then none else state.store }

/-- The text of a file of a change as it was written. -/
def fileText (project : Project) (place : Path) (path : FilePath) : Except FileFault String :=
  (project.state place).files.rawText path

/-- The paths of the files of a change, in order, without those of its records. -/
def filePaths (project : Project) (place : Path) : List String :=
  let isRecord (path : FilePath) :=
    project.settings.stateFile.toList.isPrefixOf (path.getLast?.getD "").toList
  let paths := (project.state place).files.filePaths.filter (!isRecord ·)
  (paths.map ("/".intercalate ·)).mergeSort (· ≤ ·)

/-- The project with the folder of a change under another name, and with the records that are in
it. -/
def rename (project : Project) (place target : Path) : Project :=
  let state := project.state place
  if project.settings.keepsRecordsInside then
    let others :=
      { project with
        folders := without place project.folders
        stores := without (project.settings.recordPath place) project.stores }
    others.setState target state
  else
    { project with
      folders := without target (without place project.folders) ++ [(target, state.files)] }

end Project

end PlanCycle
