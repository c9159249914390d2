/-
Module: PlanCycle.Proofs.UsageRecords
Purpose: The usage records of a change after a run: the older ones first, then one for each answer
  that was accepted.
Main exports:
  AgentAnswer.IsStorable, Run.Charges, Lifecycle.implement_charges, Report.Booked,
  Project.usage_follows_accepted_calls
-/
import PlanCycle.Proofs.Billing
import PlanCycle.Proofs.CheckedPlan

namespace PlanCycle

open Number

variable {α β : Type}

/-! ### What can be stored -/

/-- Whether what an agent used can be stored: its model is a text with an encoding and its counts
are not too great. -/
structure AgentAnswer.IsStorable (answer : AgentAnswer) : Prop where
  model : ∃ model, answer.model = .string model
  tokensIn : answer.inputTokens < Session.numberLimit
  tokensOut : answer.outputTokens < Session.numberLimit

theorem AgentAnswer.IsStorable.recordUsage {answer : AgentAnswer} (storable : answer.IsStorable)
    (context : CycleContext) (step : String) (store : Store) :
    ∃ record last, recordUsage context step answer store = .ok (record, last) := by
  obtain ⟨⟨model, named⟩, small, few⟩ := storable
  have used : answer.usage? = some (answer.usageOf model) := by
    rw [usage?, named]
    rfl
  refine ⟨_, _, recordUsage_ok_iff.2 ⟨by rw [record?, used]; rfl, ?_, rfl⟩⟩
  have zero : (0 : Int) < Session.numberLimit := by decide
  have limit : -Session.numberLimit ≤ (0 : Int) := by decide
  simp only [UsageRecord.Fits, UsageRecord.ofUsage, usageOf, Session.fits, List.all_cons,
    List.all_nil, Bool.and_true, Bool.and_eq_true, decide_eq_true_eq]
  omega

/-! ### Sessions that keep the usage records -/

/-- The sessions after which the usage records are what they were. -/
def Session.KeepsUsage (work : Session α) : Prop :=
  ∀ ⦃store value last⦄, work store = .ok (value, last) → last.usage = store.usage

namespace Session.KeepsUsage

theorem pure (value : α) : KeepsUsage (pure value : Session α) := by
  intro store given last worked
  obtain ⟨-, rfl⟩ := Session.pure_ok_iff.1 worked
  rfl

theorem bind {first : Session α} {next : α → Session β} (one : KeepsUsage first)
    (two : ∀ value, KeepsUsage (next value)) : KeepsUsage (first >>= next) := by
  intro store value last worked
  obtain ⟨between, after, begun, ended⟩ := Session.bind_ok_iff.1 worked
  exact (two between ended).trans (one begun)

theorem load (id : String) : KeepsUsage (Session.load id) := by
  intro store change last worked
  obtain ⟨-, rfl⟩ := Session.load_ok_iff.1 worked
  rfl

theorem modify (id : String) (edit : Change → Change) : KeepsUsage (Session.modify id edit) := by
  intro store after last worked
  obtain ⟨change, -, -, -, rfl⟩ := Session.modify_ok_iff.1 worked
  rfl

theorem advance (id : String) (step : Change → Except Failure Change) :
    KeepsUsage (Session.advance id step) := by
  intro store after last worked
  obtain ⟨change, -, -, -, rfl⟩ := Session.advance_ok_iff.1 worked
  rfl

theorem logEvent {entry : LogEntry} (untimed : entry.durationMs = none) :
    KeepsUsage (Session.logEvent entry) := by
  intro store row last worked
  obtain ⟨-, rfl⟩ := (Session.logEvent_ok_iff untimed).1 worked
  rfl

end Session.KeepsUsage

/-! ### Runs that charge what they accept -/

theorem Run.session_costless {work : Session α} (keeps : work.KeepsUsage) :
    Run.Guarantees .costless (Run.session work) := by
  intro world result last ran
  rcases Run.session_cases ran with ⟨_, _, _, rfl⟩ | ⟨_, store, worked, _, rfl⟩
  · exact Guarantee.costless.refl _
  · exact ⟨keeps worked, [], by simp, rfl⟩

/-- Whether the answers that a run has accepted are on record, in this order and behind all older
records, if the run gives a value or all of them can be stored. -/
def World.Charges (context : CycleContext) (result : Except Stop α) (before after : World) : Prop :=
  ∃ added, after.events = before.events ++ added ∧
    ((∃ value, result = .ok value) ∨
        (∀ call ∈ Event.acceptedCalls added, call.2.2.IsStorable) →
      ∃ used, after.store.usage = before.store.usage ++ used ∧
        List.Forall₂ (UsageEntry.IsFor context.prices context.changeId)
          (Event.acceptedCalls added) used)

/-- The runs that record what they accept. -/
def Run.Charges (context : CycleContext) (run : Run α) : Prop :=
  ∀ ⦃world result last⦄, run world = (result, last) → world.Charges context result last

section
variable {context : CycleContext}

open Guarantee

theorem World.Charges.of_costless {result : Except Stop α} {before after : World}
    (quiet : costless.holds before after) : before.Charges context result after := by
  obtain ⟨usage, added, events, unaccepted⟩ := quiet
  refine ⟨added, events, fun _ => ⟨[], by rw [usage, List.append_nil], ?_⟩⟩
  rw [unaccepted]
  exact .nil

namespace Run.Charges

theorem of_costless {run : Run α} (quiet : Run.Guarantees costless run) :
    Charges context run :=
  fun _ _ _ ran => .of_costless (quiet ran)

/-- What goes on has to charge for the values only that the first run can give. -/
theorem bind_given {first : Run α} {next : α → Run β} (one : Charges context first)
    (two : ∀ value, (∃ world after, first world = (.ok value, after)) →
      Charges context (next value)) : Charges context (first >>= next) := by
  intro world result last ran
  rcases Run.bind_cases ran with ⟨reason, stopped, rfl⟩ | ⟨value, after, begun, ended⟩
  · obtain ⟨added, events, charged⟩ := one stopped
    refine ⟨added, events, fun settled => charged (.inr ?_)⟩
    rcases settled with ⟨_, impossible⟩ | storable
    · cases impossible
    · exact storable
  · obtain ⟨added, events, charged⟩ := one begun
    obtain ⟨more, moreEvents, chargedMore⟩ := two value ⟨world, after, begun⟩ ended
    refine ⟨added ++ more, by rw [moreEvents, events, List.append_assoc], fun settled => ?_⟩
    rw [Event.acceptedCalls_append] at settled ⊢
    obtain ⟨used, usage, booked⟩ := charged (.inl ⟨value, rfl⟩)
    obtain ⟨others, moreUsage, rest⟩ := chargedMore (settled.imp_right fun storable call member =>
      storable call (List.mem_append_right _ member))
    exact ⟨used ++ others, by rw [moreUsage, usage, List.append_assoc], List.rel_append booked rest⟩

theorem bind {first : Run α} {next : α → Run β} (one : Charges context first)
    (two : ∀ value, Charges context (next value)) : Charges context (first >>= next) :=
  bind_given one fun value _ => two value

/-- A call whose answer is recorded next is charged, unless the answer cannot be stored. -/
theorem call {call : AgentCall} {other : CycleContext} {accept : Folder → AgentAnswer → Bool} :
    Charges context (do
      let answer ← call.run other accept
      warnOfUsage call.step answer
      Run.session do
        let _ ← recordUsage context call.step answer) := by
  intro world result last ran
  rcases Run.bind_cases ran with ⟨reason, stopped, rfl⟩ | ⟨answer, after, answered, ran⟩
  · have quiet : (unbilled context.changeId).holds world last := AgentCall.run_unbilled stopped
    exact .of_costless quiet.1
  obtain ⟨added, events, accepted⟩ := AgentCall.events_run answered
  have store := AgentCall.store_run answered
  have warned : Event.acceptedCalls (added ++ Cycle.usageWarnings call.step answer) =
      [(call.role, call.step, answer)] := by
    rw [Event.acceptedCalls_append, Cycle.acceptedCalls_usageWarnings, accepted, List.append_nil]
  rw [Run.bind_of_ok (Cycle.warnOfUsage_apply _ _ _)] at ran
  refine ⟨added ++ Cycle.usageWarnings call.step answer, ?_, fun settled => ?_⟩
  · rcases Run.session_cases ran with ⟨_, _, _, rfl⟩ | ⟨_, _, _, _, rfl⟩
    · simp [events]
    · simp [events]
  rw [warned] at settled ⊢
  -- The session either records the answer or stops at it, which a storable answer rules out.
  rcases Run.session_cases ran with ⟨_, stopped, rfl, rfl⟩ | ⟨_, _, worked, rfl, rfl⟩
  · rcases settled with ⟨_, impossible⟩ | storable
    · cases impossible
    · obtain ⟨record, kept, recorded⟩ :=
        (storable _ List.mem_cons_self).recordUsage context call.step after.store
      rw [World.store_shows, Session.bind_of_ok recorded] at stopped
      cases stopped
  · obtain ⟨record, _, recorded, ended⟩ := Session.bind_ok_iff.1 worked
    obtain ⟨kept, -, rfl⟩ := recordUsage_ok_iff.1 recorded
    cases ended
    rw [World.store_shows, store]
    exact ⟨_, rfl, .cons (UsageEntry.isFor_record kept) .nil⟩

/-- Which of two contexts a run charges does not matter if they agree on the change and the
prices. -/
theorem congr {other : CycleContext} {run : Run α} (charges : Charges other run)
    (sameId : other.changeId = context.changeId) (samePrices : other.prices = context.prices) :
    Charges context run := by
  unfold Charges World.Charges at charges ⊢
  rwa [sameId, samePrices] at charges

end Run.Charges

namespace Lifecycle

open Run

theorem keepProgress_keepsUsage (id : String) (graph : TaskGraph) :
    (keepProgress id graph).KeepsUsage := by
  have noted : (noteProgress id graph).KeepsUsage :=
    .bind (.modify id _) fun _ => .bind (.logEvent rfl) fun _ => .pure _
  exact keepProgress_of (fun _ work => work.KeepsUsage) .bind (.load id)
    (fun _ _ => .advance id _) noted

theorem implementTasks_charges (context : CycleContext) (pending : List String) :
    Run.Charges context (implementTasks context pending) :=
  .bind (.of_costless (.look _)) fun _ => .bind (.of_costless (.ofFiles _)) fun _ => .call

/-- To look how far the tasks are costs nothing. -/
theorem finish_costless (context : CycleContext) : Run.Guarantees costless (finish context) := by
  refine .bind (taskGraph_guarantees context) fun graph => ?_
  refine .bind (Run.session_costless (keepProgress_keepsUsage _ graph)) fun _ => ?_
  exact .bind (.say _) fun _ => status_guarantees _ _

/-- The implementation of tasks records what it accepts, if the implementer is found at no cost and
for the same change and prices. -/
theorem implement_charges {implementer : Run CycleContext}
    (finding : Run.Guarantees costless implementer)
    (same : ∀ {world found after}, implementer world = (.ok found, after) →
      found.changeId = context.changeId ∧ found.prices = context.prices) :
    Run.Charges context (implement context implementer) := by
  rw [implement_eq]
  refine .bind (.of_costless (Run.session_costless (.load _))) fun change => ?_
  split
  · exact .of_costless (.stop _)
  refine .bind (.of_costless (taskGraph_guarantees context)) fun graph => ?_
  split
  · exact .of_costless (.bind (.say _) fun _ => finish_costless context)
  · refine .bind (.of_costless (.say _)) fun _ => ?_
    refine .bind_given (.of_costless finding) fun found given => ?_
    obtain ⟨world, after, given⟩ := given
    obtain ⟨sameId, samePrices⟩ := same given
    have asking := implementTasks_charges found (graph.pending.map taskLine)
    exact .bind (asking.congr sameId samePrices) fun _ => .of_costless (finish_costless context)

end Lifecycle

end

/-! ### Runs on a change -/

/-- The usage records next to a change. -/
def Project.usage (project : Project) (root : Path) (id : String) : List UsageEntry :=
  ((project.records root id).map (·.usage)).getD []

/-- Whether a run on a change of a project left the usage records as they were and recorded behind
them, in order, each answer that was accepted: with its step, its model, its counts and their cost,
and nothing else. -/
def Report.Booked (project : Project) (root : Path) (id : String) (report : Report α) : Prop :=
  ∃ used, report.project.usage root id = project.usage root id ++ used ∧
    List.Forall₂ (UsageEntry.IsFor project.settings.prices id)
      (Event.acceptedCalls report.events) used

namespace Project

open Guarantee

variable {root : Path} {id : String} {means : Means}

theorem usage_of_recorded {project : Project} {store : Store}
    (recorded : project.records root id = some store) : project.usage root id = store.usage := by
  rw [usage, recorded]
  rfl

@[simp] theorem usage_setState (project : Project) (files : Folder) (store : Store) :
    (project.setState (project.place root id) { files, store := some store }).usage root id =
      store.usage :=
  usage_of_recorded (by simp [records])

/-- A cycle that is ready is on record, and about the change and the prices of its project. -/
theorem prepare_books {project : Project} {world ready : World} {context : CycleContext}
    {phase : Phase}
    (prepared : project.prepare root id means world = (.ok (context, phase), ready)) :
    context.changeId = id ∧ context.prices = project.settings.prices ∧
      ready.store = world.store ∧ ready.events = world.events ∧
      ready.store.Knows context.changeId (·.phase = phase) := by
  obtain ⟨change, cast, lister, found, -, -, -, rfl, rfl, rfl⟩ := prepare_ok_iff.1 prepared
  have same := Store.id_of_find? found
  refine ⟨same, rfl, rfl, rfl, change, ?_, rfl⟩
  rw [show (project.context root change cast means lister).changeId = id from same]
  exact found

/-- What books the answers that it accepts unless a breakdown stops it has booked them once it gives
an outcome. -/
theorem onceReady_booked {project : Project} {body : CycleContext → Phase → Run CycleOutcome}
    (books : ∀ context phase, Run.Books context (·.phase = phase) [] (body context phase))
    {outcome : CycleOutcome}
    (ended : (project.within root id means fun _ =>
      project.onceReady root id means body).result = .ok outcome) :
    (project.within root id means fun _ => project.onceReady root id means body).Booked
      project root id := by
  obtain ⟨store, context, phase, ready, last, recorded, prepared, went, whole⟩ := onceReady_ok ended
  obtain ⟨sameId, samePrices, sameStore, sameEvents, known⟩ := prepare_books prepared
  rw [whole]
  rcases books context phase went known with
    ⟨_, impossible⟩ | ⟨-, added, used, events, usage, booked⟩
  · cases impossible
  rw [sameEvents] at events
  rw [sameStore] at usage
  rw [sameId, samePrices] at booked
  refine ⟨used, ?_, ?_⟩
  · rw [usage_setState, usage_of_recorded recorded]
    exact usage
  · rw [show last.events = added from events]
    exact booked

theorem findImplementer_costless (project : Project) (means : Means) (context : CycleContext) :
    Run.Guarantees costless (project.findImplementer means context) := by
  unfold findImplementer
  split
  · exact .pure _
  · refine .bind (.ofExcept _) fun setup => .bind ?_ fun _ => .pure _
    intro world result last ran
    cases ran
    exact ⟨rfl, [], by simp, rfl⟩

/-- The implementer works on the same change, at the same prices. -/
theorem findImplementer_same {project : Project} {means : Means} {context found : CycleContext}
    {world after : World}
    (given : project.findImplementer means context world = (.ok found, after)) :
    found.changeId = context.changeId ∧ found.prices = context.prices := by
  unfold findImplementer at given
  cases named : means.cast with
  | some _ =>
      rw [named] at given
      cases given
      exact ⟨rfl, rfl⟩
  | none =>
      rw [named] at given
      obtain ⟨setup, _, -, given⟩ := Run.bind_ok given
      obtain ⟨_, _, -, given⟩ := Run.bind_ok given
      cases given
      exact ⟨rfl, rfl⟩

theorem implement_booked (project : Project) (root : Path) (id : String) (means : Means)
    (settled : (∃ status, (project.implement root id means).result = .ok status) ∨
      ∀ call ∈ Event.acceptedCalls (project.implement root id means).events,
        call.2.2.IsStorable) :
    (project.implement root id means).Booked project root id := by
  let context := project.implementContext root id means
  have engaging : Run.Guarantees costless (means.cast.getD .unassigned).engage := by
    intro world result last ran
    cases ran
    exact ⟨rfl, [], by simp, rfl⟩
  have implementing : Run.Charges context
      (Lifecycle.implement context (project.findImplementer means context)) :=
    Lifecycle.implement_charges (findImplementer_costless project means context)
      findImplementer_same
  have charges : Run.Charges context (do
      (means.cast.getD .unassigned).engage
      Lifecycle.implement context (project.findImplementer means context)) :=
    .bind (.of_costless engaging) fun _ => implementing
  rw [implement_eq] at settled ⊢
  cases recorded : project.records root id with
  | none =>
      rw [within_of_unrecorded recorded]
      exact ⟨[], (List.append_nil _).symm, .nil⟩
  | some store =>
      rcases ran : (do
          (means.cast.getD .unassigned).engage
          Lifecycle.implement context (project.findImplementer means context))
        (project.start root id means store) with ⟨result, last⟩
      rw [within_of_recorded recorded ran] at settled ⊢
      obtain ⟨added, events, charged⟩ := charges ran
      rw [show last.events = added from events] at settled ⊢
      obtain ⟨used, usage, booked⟩ := charged settled
      refine ⟨used, ?_, booked⟩
      rw [usage_setState, usage_of_recorded recorded]
      exact usage

/-- **Usage follows the accepted answers.**  A cycle or a round of critiques that gives an outcome,
be it an error, and an implementation that gives a status, or anything as long as the accepted
answers can be stored, leaves the older usage records as they were.  Behind them it leaves one
record for each accepted answer, in order, and no other. -/
theorem usage_follows_accepted_calls (project : Project) (root : Path) (id : String)
    (means : Means) :
    let implemented := project.implement root id means
    (∀ report ∈ [project.cycle root id means, project.challenge root id means], ∀ outcome,
      report.result = .ok outcome → report.Booked project root id) ∧
    ((∃ status, implemented.result = .ok status) ∨
        (∀ call ∈ Event.acceptedCalls implemented.events, call.2.2.IsStorable) →
      implemented.Booked project root id) := by
  refine ⟨fun report run outcome ended => ?_, implement_booked project root id means⟩
  simp only [List.mem_cons, List.not_mem_nil, or_false] at run
  rcases run with rfl | rfl
  · exact onceReady_booked Cycle.runCycle_books ended
  · exact onceReady_booked Cycle.runChallenge_books ended

end Project

/-! ### An implementation of the least plan -/

namespace Lifecycle

/-- The call by which tasks are handed to the implementer. -/
def implementCall (context : CycleContext) (folder : ChangeFolder) (pending : List String)
    (prompt : String) : AgentCall :=
  { step := "implement", role := .implementer, prompt
    isWhole := !namesHalves folder || pending.all fun line => !Text.holdsHalf line.toList
    environment := Cycle.environment context .implementer folder }

/-- An implementer that answers is asked for the tasks, and what its answer used is recorded. -/
theorem implementTasks_answered {context : CycleContext} {before after : Surroundings}
    {answer : AgentAnswer} {pending : List String} (valid : (Cycle.folderIn context before).IsValid)
    (gives : ∀ prompt, before.Gives
      ((implementCall context (Cycle.folderIn context before) pending prompt).run context)
      answer after) (store : Store) (events : List Event) :
    ∃ added, Event.acceptedCalls added = [(.implementer, "implement", answer)] ∧
      implementTasks context pending (before.world store events) =
        Run.session (do let _ ← recordUsage context "implement" answer)
          (after.world store (events ++ added)) := by
  obtain ⟨prompt, prompted⟩ := valid.implementationPrompt context.changeId pending
  obtain ⟨added, answered, accepted⟩ := (gives prompt).call store events
  refine ⟨added ++ Cycle.usageWarnings "implement" answer, ?_, ?_⟩
  · rw [Event.acceptedCalls_append, accepted, Cycle.acceptedCalls_usageWarnings, List.append_nil]
    rfl
  · have folder : context.folder (before.world store events) = Cycle.folderIn context before := rfl
    unfold implementTasks Cycle.documents
    rw [Run.bind_of_ok (Run.look_apply _ _), folder,
      Run.bind_of_ok (Run.ofFiles_ok_iff.2 ⟨prompted, rfl⟩)]
    refine (Run.bind_of_ok answered).trans ?_
    rw [Run.bind_of_ok (Cycle.warnOfUsage_apply _ _ _), Surroundings.shows_world, List.append_assoc]

end Lifecycle

namespace TwoTurns

open PlanCycle.Cycle ChangeFolder

/-- The graph of the least list of tasks. -/
def leastGraph : TaskGraph := ⟨[⟨"data", 1, [leastTask]⟩]⟩

theorem pending_leastGraph : leastGraph.pending = [leastTask] := by
  simp [TaskGraph.pending, TaskGraph.executionOrder, TaskGraph.orderAfter, TaskGraph.layerOrder,
    TaskGraph.isReady, Task.isDone, leastGraph, leastTask]

theorem taskGraph_leastPlan {context : CycleContext} {world : World}
    (files : world.files = leastPlan) :
    Lifecycle.taskGraph context world = (.ok leastGraph, world) := by
  have read : (context.folder world).read .tasks = .ok leastTasks := by
    unfold CycleContext.folder
    rw [files]
    exact read_leastPlan _
  unfold Lifecycle.taskGraph documents
  rw [Run.bind_of_ok (Run.look_apply _ world), Run.bind_of_ok (Run.ofFiles_ok_iff.2 ⟨read, rfl⟩),
    read_leastTasks]
  rfl

/-- The change once its plan is approved. -/
def approvedChange : Change := { change with phase := .challenged }

/-- The project in which the least plan is approved. -/
def approvedProject : Project :=
  let place := Project.place {} root change.id
  { folders := [(place, leastPlan)]
    stores := [(Settings.recordPath {} place, { changes := [approvedChange] })] }

/-- An answer for which so many tokens were read. -/
def answerOver (tokens : Int) : AgentAnswer := { answerOf "done" with inputTokens := tokens }

/-- An implementer that gives an answer. -/
def implementer (answer : AgentAnswer) : Role → Agent
  | _ => .ready { answer := .ok answer } []

/-- What an implementation of the approved plan by some agents does not alter. -/
def implementingBy (agents : Role → Agent) : CycleContext :=
  approvedProject.implementContext root change.id (meansOf agents)

/-- The world of the approved plan and some agents. -/
def approvedWorld (agents : Role → Agent) (events : List Event) : World :=
  Surroundings.world ⟨leastPlan, agents, means.processes⟩ { changes := [approvedChange] } events

/-- The line that an implementation of the approved plan begins with. -/
def taskNotice : Event :=
  .line ("[cyan]Implementing " ++ toString [leastTask].length ++ " task(s)...[/cyan]")

/-- Whoever implements the approved plan is handed its task, and it is looked how far that is. -/
theorem implement_handsTask (agents : Role → Agent) :
    Lifecycle.implement (implementingBy agents) (Run.done (implementingBy agents))
        (approvedWorld agents []) =
      (do
        Lifecycle.implementTasks (implementingBy agents) ([leastTask].map Lifecycle.taskLine)
        Lifecycle.finish (implementingBy agents)) (approvedWorld agents [taskNotice]) := by
  have loaded : Run.session (Session.load (implementingBy agents).changeId)
      (approvedWorld agents []) = (.ok approvedChange, approvedWorld agents []) := rfl
  have graphed : Lifecycle.taskGraph (implementingBy agents) (approvedWorld agents []) =
      (.ok leastGraph, approvedWorld agents []) := taskGraph_leastPlan rfl
  have allowed : ¬(approvedChange.phase ≠ .challenged ∧ approvedChange.phase ≠ .implementing) := by
    decide
  rw [Lifecycle.implement_eq]
  refine (Run.bind_of_ok loaded).trans ?_
  rw [if_neg allowed]
  refine (Run.bind_of_ok graphed).trans ?_
  rw [pending_leastGraph]
  dsimp only
  rw [Run.bind_of_ok (Run.say_apply _ _)]
  rfl

/-- A run of agents on the approved plan is one in its project. -/
theorem implement_approvedBy {agents : Role → Agent} {result : Except Stop ChangeStatus}
    {last : World}
    (ran : Lifecycle.implement (implementingBy agents) (Run.done (implementingBy agents))
      (approvedWorld agents []) = (result, last)) :
    approvedProject.implement root change.id (meansOf agents) =
      { result
        project := approvedProject.setState (approvedProject.place root change.id)
          { files := last.files, store := some last.store }
        events := last.events } := by
  have recorded : approvedProject.records root change.id =
      some { changes := [approvedChange] } := rfl
  have engaged : ((meansOf agents).cast.getD .unassigned).engage
      (approvedProject.start root change.id (meansOf agents) { changes := [approvedChange] }) =
        (.ok (), approvedWorld agents []) := rfl
  rw [Project.implement_eq]
  exact Project.within_of_recorded recorded ((Run.bind_of_ok engaged).trans ran)

/-- The task of the approved plan is answered by an agent with its answer ready, and what that used
is to be recorded next. -/
theorem implementTasks_ready {agents : Role → Agent} {first : Reply} {others : List Reply}
    {answer : AgentAnswer} (ready : agents .implementer = .ready first others)
    (given : first.answer = .ok answer) :
    ∃ (after : Surroundings) (events : List Event), after.files = leastPlan.edited first.edits ∧
      Event.acceptedCalls events = [(.implementer, "implement", answer)] ∧
      Lifecycle.implementTasks (implementingBy agents) ([leastTask].map Lifecycle.taskLine)
          (approvedWorld agents [taskNotice]) =
        Run.session (do let _ ← recordUsage (implementingBy agents) "implement" answer)
          (after.world { changes := [approvedChange] } events) := by
  let before : Surroundings := ⟨leastPlan, agents, means.processes⟩
  have attempts : 1 ≤ (implementingBy agents).policy.attempts := by
    change 1 ≤ context.policy.attempts
    decide
  let pending := [leastTask].map Lifecycle.taskLine
  have gives (prompt : String) : before.Gives
      ((Lifecycle.implementCall (implementingBy agents) (folderIn (implementingBy agents) before)
        pending prompt).run (implementingBy agents)) answer
      (before.answered .implementer first others) :=
    Surroundings.gives_ready ready given rfl attempts
  have valid : (folderIn (implementingBy agents) before).IsValid := leastPlan_isValid _
  obtain ⟨added, accepted, ran⟩ := Lifecycle.implementTasks_answered valid gives
    { changes := [approvedChange] } [taskNotice]
  refine ⟨before.answered .implementer first others, [taskNotice] ++ added, rfl, ?_, ran⟩
  rw [Event.acceptedCalls_append, accepted]
  rfl

/-- An implementation of the approved plan asks the implementer, records what that used and looks
how far the tasks are. -/
theorem implement_asks (answer : AgentAnswer) :
    ∃ (after : Surroundings) (events : List Event), after.files = leastPlan ∧
      Event.acceptedCalls events = [(.implementer, "implement", answer)] ∧
      Lifecycle.implement (implementingBy (implementer answer))
          (Run.done (implementingBy (implementer answer)))
          (approvedWorld (implementer answer) []) =
        (Run.session (do
            let _ ← recordUsage (implementingBy (implementer answer)) "implement" answer)
          >>= fun _ => Lifecycle.finish (implementingBy (implementer answer)))
          (after.world { changes := [approvedChange] } events) := by
  have ready : implementer answer .implementer = .ready { answer := .ok answer } [] := rfl
  obtain ⟨after, events, files, accepted, ran⟩ := implementTasks_ready ready rfl
  exact ⟨after, events, files, accepted,
    (implement_handsTask (implementer answer)).trans (Run.bind_congr ran)⟩

theorem finish_leastPlan (agents : Role → Agent) {after : Surroundings} (usage : List UsageEntry)
    (events : List Event) (files : after.files = leastPlan) :
    ∃ status last, Lifecycle.finish (implementingBy agents)
      (after.world { changes := [approvedChange], usage } events) = (.ok status, last) := by
  have graphed : Lifecycle.taskGraph (implementingBy agents)
      (after.world { changes := [approvedChange], usage } events) = (.ok leastGraph, _) :=
    taskGraph_leastPlan files
  unfold Lifecycle.finish
  rw [Run.bind_of_ok graphed]
  obtain ⟨_, agents, processes⟩ := after
  cases files
  exact ⟨_, _, rfl⟩

/-- An implementation whose answer can be stored gives a status. -/
theorem implement_gives {answer : AgentAnswer} (storable : answer.IsStorable) :
    ∃ status, (approvedProject.implement root change.id (meansOf (implementer answer))).result =
      .ok status := by
  obtain ⟨after, events, files, -, ran⟩ := implement_asks answer
  obtain ⟨record, store, recorded⟩ := storable.recordUsage (implementingBy (implementer answer))
    "implement" { changes := [approvedChange] }
  have kept : Run.session
      (do let _ ← recordUsage (implementingBy (implementer answer)) "implement" answer)
      (after.world { changes := [approvedChange] } events) = (.ok (), after.world store events) :=
    Run.session_of_ok (Session.bind_of_ok recorded)
  obtain ⟨-, -, rfl⟩ := recordUsage_ok_iff.1 recorded
  obtain ⟨status, last, finished⟩ := finish_leastPlan (implementer answer) _ events files
  rw [implement_approvedBy ((ran.trans (Run.bind_of_ok kept)).trans finished)]
  exact ⟨status, rfl⟩

/-- An answer that is accepted and cannot be stored is nowhere on record. -/
theorem answer_is_lost {answer : AgentAnswer} {breakdown : Breakdown}
    (stops : recordUsage (implementingBy (implementer answer)) "implement" answer
      { changes := [approvedChange] } = .error (.breakdown breakdown)) :
    let report := approvedProject.implement root change.id (meansOf (implementer answer))
    report.result = .error (.breakdown breakdown) ∧
      Event.acceptedCalls report.events = [(.implementer, "implement", answer)] ∧
      report.project.usage root change.id = [] ∧
      ¬report.Booked approvedProject root change.id := by
  obtain ⟨after, events, -, accepted, ran⟩ := implement_asks answer
  have stopped : Run.session
      (do let _ ← recordUsage (implementingBy (implementer answer)) "implement" answer)
      (after.world { changes := [approvedChange] } events) =
        (.error (.breakdown breakdown), after.world { changes := [approvedChange] } events) :=
    Run.session_of_error (Session.bind_of_error stops)
  rw [Run.bind_of_error stopped] at ran
  rw [implement_approvedBy ran]
  have unrecorded : (approvedProject.setState (approvedProject.place root change.id)
      { files := after.files, store := some { changes := [approvedChange] } }).usage root
        change.id = [] := Project.usage_setState _ _ _
  refine ⟨rfl, accepted, unrecorded, ?_⟩
  rintro ⟨used, usage, booked⟩
  have none_used : used = [] := by
    rw [show approvedProject.usage root change.id = [] from rfl, List.nil_append] at usage
    exact usage.symm.trans unrecorded
  have length := booked.length_eq
  rw [none_used] at length
  simp [Surroundings.world, accepted] at length

/-- Answers that are accepted are booked, in two turns of a critique and in an implementation. -/
theorem calls_are_booked :
    let challenged := project.challenge root change.id means
    let implemented :=
      approvedProject.implement root change.id (meansOf (implementer (answerOver 5)))
    (challenged.result = .ok .approved ∧ (Event.acceptedCalls challenged.events).length = 3 ∧
        challenged.Booked project root change.id) ∧
      (∃ status, implemented.result = .ok status) ∧
      implemented.Booked approvedProject root change.id := by
  obtain ⟨approved, -, answers⟩ := round_approves
  have ended : (project.challenge root change.id means).result = .ok .approved :=
    (challenge_result cast.agents).trans approved
  have count := congrArg (fun events => (Event.acceptedCalls events).length)
    (challenge_events cast.agents)
  have storable : (answerOver 5).IsStorable := ⟨⟨"m", rfl⟩, by decide, by decide⟩
  obtain ⟨critiques, -⟩ := Project.usage_follows_accepted_calls project root change.id means
  obtain ⟨-, works⟩ := Project.usage_follows_accepted_calls approvedProject root change.id
    (meansOf (implementer (answerOver 5)))
  have booked := critiques _ (List.mem_cons_of_mem _ List.mem_cons_self) .approved ended
  have status := implement_gives storable
  exact ⟨⟨ended, count.trans answers, booked⟩, status, works (.inl status)⟩

/-- An answer with too great a count is accepted and then nowhere on record, and so is one of a
model whose name has no encoding. -/
theorem unstorable_usage_is_lost :
    let great := approvedProject.implement root change.id
      (meansOf (implementer (answerOver Session.numberLimit)))
    let broken : AgentAnswer := { output := "done", model := .halved "m" }
    let nameless := approvedProject.implement root change.id (meansOf (implementer broken))
    (great.result = .error (.breakdown .overflow) ∧
        Event.acceptedCalls great.events =
          [(.implementer, "implement", answerOver Session.numberLimit)] ∧
        great.project.usage root change.id = [] ∧
        ¬great.Booked approvedProject root change.id) ∧
      nameless.result = .error (.breakdown .unencodable) ∧
      Event.acceptedCalls nameless.events = [(.implementer, "implement", broken)] ∧
      nameless.project.usage root change.id = [] ∧
      ¬nameless.Booked approvedProject root change.id :=
  ⟨answer_is_lost rfl, answer_is_lost rfl⟩

end TwoTurns

end PlanCycle
