/-
Module: PlanCycle.Proofs.Implementation
Purpose: How an implementation ends: with a status after one accepted answer of the implementer, if
  tasks were left, and with a phase that tells how far they are; or stopped, and then the record of
  the change is what it was.
Main exports:
  TaskGraph.IsDone, ChangeFolder.taskGraph, Change.progressed, Lifecycle.HandsOver,
  Lifecycle.Finishes, Lifecycle.Proceeds, Lifecycle.implement_proceeds, Lifecycle.Implements,
  Lifecycle.implement_implements, Project.change?, Project.implementation_keeps_all_or_nothing
-/
import PlanCycle.Proofs.AcceptedTasks
import PlanCycle.Proofs.KeptFiles
import PlanCycle.Proofs.UsageRecords
import PlanCycle.Proofs.ValidatingCycle
import PlanCycle.Proofs.WorkingOrder

namespace PlanCycle

variable {α : Type}

/-! ### Task graphs that are done -/

namespace TaskGraph

/-- Whether all tasks of a graph are done. -/
def IsDone (graph : TaskGraph) : Prop :=
  ∀ task ∈ graph.tasks, task.isDone = true

instance (graph : TaskGraph) : Decidable graph.IsDone :=
  inferInstanceAs (Decidable (∀ task ∈ graph.tasks, task.isDone = true))

variable {graph : TaskGraph}

theorem pending_eq_nil_iff : graph.pending = [] ↔ graph.IsDone := by
  unfold pending IsDone
  rw [List.filter_eq_nil_iff]
  simp [graph.executionOrder_perm.mem_iff]

theorem allDone_iff_isDone (filled : graph.tasks ≠ []) : graph.allDone = true ↔ graph.IsDone := by
  rw [allDone_iff, pending_eq_nil_iff]
  simp [progress, List.length_pos_iff, filled]

end TaskGraph

/-- The task graph in the task list of a plan, or what stops reading it. -/
def ChangeFolder.taskGraph (folder : ChangeFolder) : Except Stop TaskGraph :=
  ((folder.read .tasks).mapError Stop.ofFile).bind fun document =>
    (TaskGraph.read document).graph.mapError Stop.ofTaskList

theorem ChangeFolder.taskGraph_filled {folder : ChangeFolder} {graph : TaskGraph}
    (read : folder.taskGraph = .ok graph) : graph.tasks ≠ [] := by
  obtain ⟨document, -, read⟩ := TaskList.bind_ok_iff.1 read
  exact TaskGraph.read_filled (TaskList.mapError_ok_iff.1 read)

/-! ### Stops -/

namespace Stop

/-- Whether a session stops so because it cannot keep what a call used. -/
def IsUnstorable (reason : Stop) : Prop :=
  reason = .breakdown .overflow ∨ reason = .breakdown .namelessModel ∨
    reason = .breakdown .unencodable

theorem not_isUnstorable_failure (failure : Failure) : ¬(Stop.failure failure).IsUnstorable := by
  rintro (impossible | impossible | impossible)
  · cases impossible
  · cases impossible
  · cases impossible

theorem not_isUnstorable_taskGraph {folder : ChangeFolder} {reason : Stop}
    (unread : folder.taskGraph = .error reason) : ¬reason.IsUnstorable := by
  unfold ChangeFolder.taskGraph at unread
  cases read : folder.read .tasks with
  | error fault =>
      rw [read] at unread
      cases unread
      rintro (impossible | impossible | impossible)
      · cases impossible
      · cases impossible
      · cases impossible
  | ok document =>
      rw [read] at unread
      change (TaskGraph.read document).graph.mapError Stop.ofTaskList = _ at unread
      cases refused : (TaskGraph.read document).graph with
      | ok graph =>
          rw [refused] at unread
          cases unread
      | error fault =>
          rw [refused] at unread
          cases unread
          cases fault with
          | tasks fault => exact not_isUnstorable_failure _
          | _ =>
              rintro (impossible | impossible | impossible)
              · cases impossible
              · cases impossible
              · cases impossible

end Stop

theorem recordUsage_error {context : CycleContext} {step : String} {answer : AgentAnswer}
    {store : Store} {reason : Stop}
    (stopped : recordUsage context step answer store = .error reason) :
    reason.IsUnstorable := by
  unfold recordUsage at stopped
  cases used : answer.usage? with
  | none =>
      rw [used] at stopped
      cases stopped
      unfold AgentAnswer.modelFault
      split
      · exact .inr (.inl rfl)
      · exact .inr (.inr rfl)
  | some usage =>
      rw [used] at stopped
      unfold Session.record Session.addUsage at stopped
      dsimp only at stopped
      cases fit : Session.fits [(UsageRecord.ofUsage context.prices step usage).tokensIn,
          (UsageRecord.ofUsage context.prices step usage).tokensOut,
          (UsageRecord.ofUsage context.prices step usage).duration] with
      | false =>
          rw [Session.bind_of_error (Session.requireFit_of_unfit fit store)] at stopped
          cases stopped
          exact .inl rfl
      | true =>
          have small : Session.requireFit _ store = .ok ((), store) :=
            Session.requireFit_ok_iff.2 ⟨fit, rfl⟩
          rw [Session.bind_of_ok small] at stopped
          cases stopped

/-- What is charged for has been booked once a run gives a value. -/
theorem World.Books.of_charges {context : CycleContext} {before after : World} {value : α}
    (charges : before.Charges context (.ok value) after)
    (known : after.store.Knows context.changeId fun _ => True) : before.Books context [] after := by
  obtain ⟨added, events, charged⟩ := charges
  obtain ⟨used, usage, booked⟩ := charged (.inl ⟨value, rfl⟩)
  exact ⟨known, added, used, events, usage, booked⟩

/-! ### What is only shown -/

theorem Event.IsShown.accepted? {event : Event} (shown : event.IsShown) :
    event.accepted? = none := by
  unfold IsShown at shown
  split at shown
  · rfl
  · rfl
  · rfl
  · rfl
  · cases shown

theorem Event.acceptedCalls_of_isShown {events : List Event}
    (shown : ∀ event ∈ events, event.IsShown) : acceptedCalls events = [] :=
  acceptedCalls_of_shown fun event member => (shown event member).accepted?

section
variable {before middle after : World}

theorem World.Unchanged.folder (same : before.Unchanged after) (context : CycleContext) :
    context.folder after = context.folder before :=
  congrArg (ChangeFolder.mk context.place) same.files

/-- What changes nothing leaves nothing to be booked. -/
theorem World.Unchanged.unbilled (same : before.Unchanged after) (id : String) :
    (Guarantee.unbilled id).holds before after := by
  obtain ⟨shown, events, lines⟩ := same.shown
  exact ⟨⟨by rw [same.store], shown, events, Event.acceptedCalls_of_isShown lines⟩,
    by rw [same.store]⟩

/-- What costs nothing leaves the accepted calls as they were. -/
theorem Guarantee.acceptedCalls_of_costless (quiet : costless.holds before after) :
    Event.acceptedCalls after.events = Event.acceptedCalls before.events := by
  obtain ⟨-, added, events, unaccepted⟩ := quiet
  rw [events, Event.acceptedCalls_append, unaccepted, List.append_nil]

theorem World.Books.before_costless {context : CycleContext}
    (books : before.Books context [] middle) (quiet : Guarantee.costless.holds middle after)
    (known : after.store.Knows context.changeId fun _ => True) : before.Books context [] after := by
  obtain ⟨usage, added, events, unaccepted⟩ := quiet
  refine books.trans ⟨known, added, [], events, by simp [usage], ?_⟩
  rw [unaccepted]
  exact .nil

end

/-! ### How progress is kept -/

namespace Session

theorem bind_error {α β : Type} {first : Session α} {next : α → Session β} {store : Store}
    {reason : Stop} (stopped : (first >>= next) store = .error reason) :
    first store = .error reason ∨
      ∃ value after, first store = .ok (value, after) ∧ next value after = .error reason := by
  rcases one : first store with cause | ⟨value, after⟩
  · rw [bind_of_error one] at stopped
    cases stopped
    exact .inl rfl
  · rw [bind_of_ok one] at stopped
    exact .inr ⟨value, after, rfl, stopped⟩

variable {id : String} {store last : Store} {change moved : Change}

theorem advance_finds {step : Change → Except Failure Change}
    (found : store.find? id = some change)
    (sameId : ∀ old new, step old = .ok new → new.id = old.id)
    (worked : advance id step store = .ok (moved, last)) :
    step change = .ok moved ∧ last.find? id = some moved := by
  obtain ⟨known, there, stepped, -, rfl⟩ := advance_ok_iff.1 worked
  obtain rfl := Option.some.inj (found.symm.trans there)
  exact ⟨stepped, Store.find?_withChange_self found (sameId _ _ stepped)⟩

theorem modify_finds {edit : Change → Change} (found : store.find? id = some change)
    (sameId : (edit change).id = change.id) (worked : modify id edit store = .ok (moved, last)) :
    last.find? id = some (edit change) := by
  obtain ⟨known, there, rfl, -, rfl⟩ := modify_ok_iff.1 worked
  obtain rfl := Option.some.inj (found.symm.trans there)
  exact Store.find?_withChange_self found sameId

end Session

theorem Change.moveTo_ok_iff {change moved : Change} {target : Phase} :
    change.moveTo target = .ok moved ↔
      target ∈ change.phase.next ∧ moved = { change with phase := target } := by
  unfold moveTo
  split
  · rename_i may
    simp [may, eq_comm]
  · rename_i forbidden
    simp [forbidden]

/-- The record of a change once it is kept how far its tasks are. -/
def Change.progressed (change : Change) (graph : TaskGraph) : Change :=
  { change with
    phase := if graph.allDone then .complete else .implementing
    lastAction := some graph.note }

/-- Whether the tasks of a change may be implemented in a phase. -/
def Phase.IsImplemented (phase : Phase) : Prop :=
  phase = .challenged ∨ phase = .implementing

namespace Lifecycle

open Guarantee

section
variable {id : String} {graph : TaskGraph} {store last : Store} {change : Change} {value : Unit}

theorem noteProgress_finds (found : store.find? id = some change)
    (worked : noteProgress id graph store = .ok (value, last)) :
    last.find? id = some { change with lastAction := some graph.note } := by
  obtain ⟨_, modified, edited, worked⟩ := Session.bind_ok_iff.1 worked
  obtain ⟨_, _, logged, ended⟩ := Session.bind_ok_iff.1 worked
  obtain ⟨-, rfl⟩ := (Session.logEvent_ok_iff rfl).1 logged
  obtain ⟨-, rfl⟩ := Session.pure_ok_iff.1 ended
  exact Session.modify_finds found rfl edited

theorem completeProgress_finds (found : store.find? id = some change)
    (implementing : change.phase = .implementing)
    (worked : completeProgress id graph store = .ok (value, last)) :
    last.find? id = some (change.progressed graph) := by
  unfold completeProgress at worked
  unfold Change.progressed
  split at worked
  · rename_i done
    obtain ⟨moved, after, advanced, worked⟩ := Session.bind_ok_iff.1 worked
    obtain ⟨stepped, there⟩ :=
      Session.advance_finds found (fun _ _ => Change.moveTo_id) advanced
    obtain ⟨-, rfl⟩ := Change.moveTo_ok_iff.1 stepped
    rw [noteProgress_finds there worked, if_pos done]
  · rename_i undone
    rw [noteProgress_finds found worked, if_neg undone, ← implementing]

/-- What is kept of progress is the phase and what was done last, whichever phase it began in. -/
theorem keepProgress_finds (found : store.find? id = some change)
    (working : change.phase.IsImplemented)
    (worked : keepProgress id graph store = .ok (value, last)) :
    last.find? id = some (change.progressed graph) := by
  rw [keepProgress_eq] at worked
  obtain ⟨known, _, loaded, worked⟩ := Session.bind_ok_iff.1 worked
  obtain ⟨there, rfl⟩ := Session.load_ok_iff.1 loaded
  obtain rfl := Option.some.inj (found.symm.trans there)
  split at worked
  · obtain ⟨moved, after, advanced, worked⟩ := Session.bind_ok_iff.1 worked
    obtain ⟨stepped, there⟩ :=
      Session.advance_finds found (fun _ _ => Change.moveTo_id) advanced
    obtain ⟨-, rfl⟩ := Change.moveTo_ok_iff.1 stepped
    have kept := completeProgress_finds there rfl worked
    exact kept
  · rename_i started
    exact completeProgress_finds found (working.resolve_left started) worked

end

/-! ### The parts of an implementation -/

section
variable {context : CycleContext} {world last : World}

theorem taskGraph_isReadOnly (context : CycleContext) : Run.IsReadOnly (taskGraph context) :=
  .bind (.look _) fun _ => .bind (.ofExcept _) fun _ => .bind (.warnAll _) fun _ => .ofExcept _

/-- To read the task list shows warnings at most. -/
theorem taskGraph_cases {result : Except Stop TaskGraph}
    (ran : taskGraph context world = (result, last)) :
    (context.folder world).taskGraph = result ∧ world.Unchanged last := by
  refine ⟨?_, (taskGraph_isReadOnly context).unchanged ran⟩
  unfold taskGraph Cycle.documents at ran
  rw [Run.bind_of_ok (Run.look_apply _ world)] at ran
  unfold ChangeFolder.taskGraph
  cases read : (context.folder world).read .tasks with
  | error fault =>
      rw [read] at ran
      cases ran
      rfl
  | ok document =>
      rw [read, Run.bind_of_ok (Run.ofFiles_ok_iff.2 ⟨rfl, rfl⟩),
        Run.bind_of_ok (Run.warnAll_apply _ world), Run.ofExcept_apply] at ran
      exact (Prod.mk.inj ran).1

/-- How tasks are handed over: a prompt is made, the implementer answers it, and what that used is
recorded; or it stops in between. -/
inductive HandsOver (context : CycleContext) (pending : List String) (before : World) :
    Except Stop Unit → World → Prop
  /-- A document for the prompt cannot be read. -/
  | unasked {fault : FileFault} : HandsOver context pending before (.error (.ofFile fault)) before
  | unanswered {prompt : String} {reason : Stop} {after : World}
      (asked : (implementCall context (context.folder before) pending prompt).run context
        (fun _ _ => true) before = (.error reason, after)) :
      HandsOver context pending before (.error reason) after
  | unstored {prompt : String} {answer : AgentAnswer} {answered : World} {reason : Stop}
      (asked : (implementCall context (context.folder before) pending prompt).run context
        (fun _ _ => true) before = (.ok answer, answered))
      (unstorable : reason.IsUnstorable) :
      HandsOver context pending before (.error reason)
        (answered.shows (Cycle.usageWarnings "implement" answer))
  | recorded {prompt : String} {answer : AgentAnswer} {answered after : World}
      {usage : List UsageEntry}
      (asked : (implementCall context (context.folder before) pending prompt).run context
        (fun _ _ => true) before = (.ok answer, answered))
      (store : after.store = { answered.store with usage })
      (events : after.events = answered.events ++ Cycle.usageWarnings "implement" answer) :
      HandsOver context pending before (.ok ()) after

theorem implementTasks_handsOver {pending : List String} {result : Except Stop Unit}
    (ran : implementTasks context pending world = (result, last)) :
    HandsOver context pending world result last := by
  unfold implementTasks Cycle.documents at ran
  rw [Run.bind_of_ok (Run.look_apply _ world)] at ran
  cases read : (context.folder world).implementationPrompt context.changeId pending with
  | error fault =>
      rw [read] at ran
      cases ran
      exact .unasked
  | ok prompt =>
      rw [read, Run.bind_of_ok (Run.ofFiles_ok_iff.2 ⟨rfl, rfl⟩)] at ran
      rcases Run.bind_cases ran with ⟨reason, stopped, rfl⟩ | ⟨answer, answered, asked, ran⟩
      · exact .unanswered stopped
      rw [Run.bind_of_ok (Cycle.warnOfUsage_apply _ _ _)] at ran
      rcases Run.session_cases ran with ⟨reason, stopped, rfl, rfl⟩ | ⟨_, _, worked, rfl, rfl⟩
      · refine .unstored asked ?_
        rcases Session.bind_error stopped with unrecorded | ⟨_, _, _, impossible⟩
        · exact recordUsage_error unrecorded
        · cases impossible
      · obtain ⟨_, _, recorded, ended⟩ := Session.bind_ok_iff.1 worked
        obtain ⟨-, -, rfl⟩ := recordUsage_ok_iff.1 recorded
        obtain ⟨-, rfl⟩ := Session.pure_ok_iff.1 ended
        exact .recorded asked rfl rfl

/-- What is handed over is answered and the answer is booked, or the run stops: before an answer, or
because it cannot be stored. -/
theorem implementTasks_cases {other : CycleContext} {pending : List String}
    {result : Except Stop Unit}
    (same : other.changeId = context.changeId ∧ other.prices = context.prices)
    (known : world.store.Knows context.changeId fun _ => True)
    (ran : implementTasks other pending world = (result, last)) :
    last.store.find? context.changeId = world.store.find? context.changeId ∧
      ((result = .ok () ∧ world.Books context [] last ∧
          ∃ answer, Event.acceptedCalls last.events =
            Event.acceptedCalls world.events ++ [(.implementer, "implement", answer)]) ∨
        ∃ reason, result = .error reason ∧
          (world.Books context [] last ∨ reason.IsUnstorable)) := by
  have charges := (implementTasks_charges other pending).congr same.1 same.2 ran
  cases implementTasks_handsOver ran with
  | unasked =>
      have quiet := (unbilled context.changeId).refl world
      exact ⟨rfl, .inr ⟨_, rfl, .inl (.of_unbilled known quiet)⟩⟩
  | unanswered stopped =>
      have quiet : (unbilled context.changeId).holds world last := AgentCall.run_unbilled stopped
      exact ⟨quiet.2, .inr ⟨_, rfl, .inl (.of_unbilled known quiet)⟩⟩
  | unstored asked unstorable =>
      have store := AgentCall.store_run asked
      exact ⟨by rw [World.store_shows, store], .inr ⟨_, rfl, .inr unstorable⟩⟩
  | @recorded _ answer answered _ usage asked store events =>
      have kept : last.store.find? context.changeId = world.store.find? context.changeId := by
        rw [store, ← AgentCall.store_run asked]
        rfl
      obtain ⟨change, found, -⟩ := known
      refine ⟨kept, .inl ⟨rfl, .of_charges charges ⟨change, kept.trans found, trivial⟩, answer, ?_⟩⟩
      rw [events, Event.acceptedCalls_append, AgentCall.acceptedCalls_run asked,
        Cycle.acceptedCalls_usageWarnings, List.append_nil]
      rfl

/-- How an implementation is brought to its end: it is looked how far the tasks are, that is kept,
and the status is given; or it stops in between. -/
inductive Finishes (context : CycleContext) (before : World) :
    Except Stop ChangeStatus → World → Prop
  | unread {reason : Stop} {after : World}
      (refused : (context.folder before).taskGraph = .error reason)
      (same : before.Unchanged after) : Finishes context before (.error reason) after
  | unkept {graph : TaskGraph} {reason : Stop} {after : World}
      (read : (context.folder before).taskGraph = .ok graph)
      (stopped : keepProgress context.changeId graph before.store = .error reason)
      (same : before.Unchanged after) : Finishes context before (.error reason) after
  | kept {graph : TaskGraph} {after : World}
      (read : (context.folder after).taskGraph = .ok graph)
      (worked : keepProgress context.changeId graph before.store = .ok ((), after.store)) :
      Finishes context before (statusOf context.changeId (context.folder after) after.store) after

theorem finish_finishes {result : Except Stop ChangeStatus}
    (ran : finish context world = (result, last)) : Finishes context world result last := by
  unfold finish at ran
  rcases Run.bind_cases ran with ⟨reason, stopped, rfl⟩ | ⟨left, after, begun, ran⟩
  · obtain ⟨refused, same⟩ := taskGraph_cases stopped
    exact .unread refused same
  obtain ⟨read, same⟩ := taskGraph_cases begun
  rcases Run.bind_cases ran with ⟨reason, stopped, rfl⟩ | ⟨_, _, progress, ran⟩
  · rcases Run.session_cases stopped with ⟨_, unkept, cause, rfl⟩ | ⟨_, _, _, impossible, _⟩
    · cases cause
      exact .unkept read (same.store ▸ unkept) same
    · cases impossible
  rcases Run.session_cases progress with ⟨_, _, impossible, _⟩ | ⟨_, store, worked, _, rfl⟩
  · cases impossible
  rw [Run.bind_of_ok (Run.say_apply _ _)] at ran
  obtain ⟨rfl, rfl⟩ := Prod.mk.inj ran
  refine .kept ?_ (same.store ▸ worked)
  exact (congrArg ChangeFolder.taskGraph (same.folder context)).trans read

/-- The status of a change that is on record fails only if its documents cannot be listed. -/
theorem statusOf_cases {id : String} {folder : ChangeFolder} {store : Store} {change : Change}
    (found : store.find? id = some change) :
    (∃ status, statusOf id folder store = .ok status) ∨
      ∃ fault, folder.required = .error fault ∧
        statusOf id folder store = .error (.ofFile fault) := by
  unfold statusOf
  simp only [found]
  split
  · rename_i fault unread
    exact .inr ⟨fault, unread, rfl⟩
  · exact .inl ⟨_, rfl⟩

/-- Progress is kept and then shown, unless the list of the tasks cannot be read. -/
theorem finish_cases {change : Change} {result : Except Stop ChangeStatus}
    (found : world.store.find? context.changeId = some change)
    (working : change.phase.IsImplemented) (ran : finish context world = (result, last)) :
    (costless.holds world last) ∧
      ((∃ reason, result = .error reason ∧ last.store.find? context.changeId = some change) ∨
        ∃ left, (context.folder last).taskGraph = .ok left ∧
          last.store.find? context.changeId = some (change.progressed left) ∧
          ((∃ status, result = .ok status) ∨
            ∃ fault, (context.folder last).required = .error fault ∧
              result = .error (.ofFile fault))) := by
  refine ⟨finish_costless context ran, ?_⟩
  cases finish_finishes ran with
  | unread refused same => exact .inl ⟨_, rfl, same.store ▸ found⟩
  | unkept read stopped same => exact .inl ⟨_, rfl, same.store ▸ found⟩
  | @kept left _ read worked =>
      have progressed := keepProgress_finds found working worked
      exact .inr ⟨left, read, progressed, statusOf_cases progressed⟩

end

/-! ### Implementations -/

/-- Whether one answer of the implementer was accepted if some task was not done, and none
otherwise. -/
def AsksIfLeft (graph : TaskGraph) (before after : World) : Prop :=
  graph.IsDone ∧ Event.acceptedCalls after.events = Event.acceptedCalls before.events ∨
    ¬graph.IsDone ∧ ∃ answer, Event.acceptedCalls after.events =
      Event.acceptedCalls before.events ++ [(.implementer, "implement", answer)]

/-- How an implementation of a change ends.  It is stopped and leaves the record as it was, and what
it has accepted is booked unless that cannot be stored.  Or it has asked for what was not done, has
booked that and keeps how far the tasks are; then it gives a status, unless the documents of the
plan cannot be listed for it. -/
inductive Implements (context : CycleContext) (change : Change) (before : World) :
    Except Stop ChangeStatus → World → Prop
  | stopped {reason : Stop} {after : World}
      (kept : after.store.find? context.changeId = some change)
      (booked : before.Books context [] after ∨ reason.IsUnstorable) :
      Implements context change before (.error reason) after
  | finished {graph left : TaskGraph} {result : Except Stop ChangeStatus} {after : World}
      (read : (context.folder before).taskGraph = .ok graph)
      (reread : (context.folder after).taskGraph = .ok left)
      (calls : AsksIfLeft graph before after)
      (booked : before.Books context [] after)
      (kept : after.store.find? context.changeId = some (change.progressed left))
      (shown : (∃ status, result = .ok status) ∨
        ∃ fault, (context.folder after).required = .error fault ∧ result = .error (.ofFile fault)) :
      Implements context change before result after

/-- A change in another phase is refused at once. -/
theorem implement_refused {context : CycleContext} {implementer : Run CycleContext} {world : World}
    {change : Change} (found : world.store.find? context.changeId = some change)
    (idle : ¬change.phase.IsImplemented) :
    implement context implementer world =
      (.error (.failure (.transition change.phase .implementing)), world) := by
  have loaded : Run.session (Session.load context.changeId) world = (.ok change, world) :=
    Run.session_of_ok (Session.load_ok_iff.2 ⟨found, rfl⟩)
  rw [implement_eq, Run.bind_of_ok loaded, if_pos (not_or.mp idle)]
  rfl

section
variable {context : CycleContext} {world middle last : World} {change : Change}
variable {graph : TaskGraph} {result : Except Stop ChangeStatus}

theorem Implements.of_unbilled {reason : Stop}
    (found : world.store.find? context.changeId = some change)
    (quiet : (unbilled context.changeId).holds world last) :
    Implements context change world (.error reason) last := by
  have known : world.store.Knows context.changeId fun _ => True := ⟨change, found, trivial⟩
  exact .stopped (quiet.2.trans found) (.inl (.of_unbilled known quiet))

/-- What was asked for is kept once it is looked how far the tasks are. -/
theorem Implements.of_finish (read : (context.folder world).taskGraph = .ok graph)
    (kept : middle.store.find? context.changeId = some change)
    (working : change.phase.IsImplemented) (booked : world.Books context [] middle)
    (calls : AsksIfLeft graph world middle) (ended : finish context middle = (result, last)) :
    Implements context change world result last := by
  obtain ⟨costs, ⟨reason, rfl, kept⟩ | ⟨left, reread, kept, shown⟩⟩ :=
    finish_cases kept working ended
  · exact .stopped kept (.inl (booked.before_costless costs ⟨change, kept, trivial⟩))
  · unfold AsksIfLeft at calls
    rw [← acceptedCalls_of_costless costs] at calls
    exact .finished read reread calls (booked.before_costless costs ⟨_, kept, trivial⟩) kept shown

/-- Tasks that are left are handed to the implementer, and then it is looked how far they are. -/
theorem Implements.of_left {other : CycleContext} {pending : List String}
    (found : world.store.find? context.changeId = some change)
    (working : change.phase.IsImplemented)
    (same : other.changeId = context.changeId ∧ other.prices = context.prices)
    (read : (context.folder world).taskGraph = .ok graph) (undone : ¬graph.IsDone)
    (quiet : (unbilled context.changeId).holds world middle)
    (ran : (do
      implementTasks other pending
      finish context) middle = (result, last)) :
    Implements context change world result last := by
  have known : world.store.Knows context.changeId fun _ => True := ⟨change, found, trivial⟩
  have still := known.of_unbilled quiet
  rcases Run.bind_cases ran with ⟨reason, halted, rfl⟩ | ⟨_, answered, asked, ran⟩
  · obtain ⟨kept, ⟨impossible, -⟩ | ⟨_, stopped, booked⟩⟩ :=
      implementTasks_cases same still halted
    · cases impossible
    · cases stopped
      exact .stopped (kept.trans (quiet.2.trans found))
        (booked.imp_left fun books => .after_unbilled quiet books)
  · obtain ⟨kept, ⟨-, booked, answer, accepted⟩ | ⟨_, impossible, -⟩⟩ :=
      implementTasks_cases same still asked
    · rw [acceptedCalls_of_costless quiet.1] at accepted
      exact .of_finish read (kept.trans (quiet.2.trans found)) working
        (.after_unbilled quiet booked) (.inr ⟨undone, answer, accepted⟩) ran
    · cases impossible

/-- How an implementation goes on that is not refused: the task list is read, tasks that are left
are handed to the implementer once it is found, and it is looked how far they are. -/
inductive Proceeds (context : CycleContext) (implementer : Run CycleContext) (before : World) :
    Except Stop ChangeStatus → World → Prop
  | unread {reason : Stop} {after : World}
      (refused : (context.folder before).taskGraph = .error reason)
      (same : before.Unchanged after) : Proceeds context implementer before (.error reason) after
  | idle {graph : TaskGraph} {result : Except Stop ChangeStatus} {middle after : World}
      (read : (context.folder before).taskGraph = .ok graph) (done : graph.IsDone)
      (same : before.Unchanged middle) (ended : finish context middle = (result, after)) :
      Proceeds context implementer before result after
  | unmanned {graph : TaskGraph} {reason : Stop} {middle after : World}
      (read : (context.folder before).taskGraph = .ok graph) (same : before.Unchanged middle)
      (unfound : implementer middle = (.error reason, after)) :
      Proceeds context implementer before (.error reason) after
  | left {graph : TaskGraph} {other : CycleContext} {pending : List String}
      {result : Except Stop ChangeStatus} {middle ready after : World}
      (read : (context.folder before).taskGraph = .ok graph) (undone : ¬graph.IsDone)
      (same : before.Unchanged middle) (given : implementer middle = (.ok other, ready))
      (ran : (do
        implementTasks other pending
        finish context) ready = (result, after)) :
      Proceeds context implementer before result after

theorem implement_proceeds {implementer : Run CycleContext}
    (found : world.store.find? context.changeId = some change)
    (working : change.phase.IsImplemented)
    (ran : implement context implementer world = (result, last)) :
    Proceeds context implementer world result last := by
  have loaded : Run.session (Session.load context.changeId) world = (.ok change, world) :=
    Run.session_of_ok (Session.load_ok_iff.2 ⟨found, rfl⟩)
  rw [implement_eq] at ran
  rw [Run.bind_of_ok loaded, if_neg fun other => not_or.mpr other working] at ran
  rcases Run.bind_cases ran with ⟨reason, halted, rfl⟩ | ⟨graph, after, begun, ran⟩
  · obtain ⟨refused, same⟩ := taskGraph_cases halted
    exact .unread refused same
  obtain ⟨read, same⟩ := taskGraph_cases begun
  have said (text : String) : world.Unchanged (after.shows [.line text]) :=
    same.trans (.shows (by simp [Event.IsShown]))
  cases pending : graph.pending with
  | nil =>
      simp only [pending] at ran
      rw [Run.bind_of_ok (Run.say_apply _ _)] at ran
      exact .idle read (TaskGraph.pending_eq_nil_iff.1 pending) (said _) ran
  | cons task tasks =>
      have undone : ¬graph.IsDone := by
        rw [← TaskGraph.pending_eq_nil_iff, pending]
        exact List.cons_ne_nil task tasks
      simp only [pending] at ran
      rw [Run.bind_of_ok (Run.say_apply _ _)] at ran
      rcases Run.bind_cases ran with ⟨reason, halted, rfl⟩ | ⟨other, ready, given, ran⟩
      · exact .unmanned read (said _) halted
      · exact .left read undone (said _) given ran

theorem implement_implements {implementer : Run CycleContext}
    (finding : Run.Guarantees (unbilled context.changeId) implementer)
    (same : ∀ {world found after}, implementer world = (.ok found, after) →
      found.changeId = context.changeId ∧ found.prices = context.prices)
    (found : world.store.find? context.changeId = some change)
    (working : change.phase.IsImplemented)
    (ran : implement context implementer world = (result, last)) :
    Implements context change world result last := by
  have known : world.store.Knows context.changeId fun _ => True := ⟨change, found, trivial⟩
  cases implement_proceeds found working ran with
  | unread refused kept => exact .of_unbilled found (kept.unbilled _)
  | idle read done kept ended =>
      have quiet := kept.unbilled context.changeId
      exact .of_finish read (quiet.2.trans found) working (.of_unbilled known quiet)
        (.inl ⟨done, acceptedCalls_of_costless quiet.1⟩) ended
  | unmanned read kept unfound =>
      exact .of_unbilled found ((unbilled _).trans (kept.unbilled _) (finding unfound))
  | left read undone kept given ran =>
      exact .of_left found working (same given) read undone
        ((unbilled _).trans (kept.unbilled _) (finding given)) ran

end

end Lifecycle

/-! ### Runs on a change -/

namespace Project

open Lifecycle

variable {project : Project} {root : Path} {id : String} {means : Means}

/-- The record of a change. -/
def change? (project : Project) (root : Path) (id : String) : Option Change :=
  (project.records root id).bind (·.find? id)

@[simp] theorem change?_setState (project : Project) (files : Folder) (store : Store) :
    (project.setState (project.place root id) { files, store := some store }).change? root id =
      store.find? id := by
  simp [change?, records]

@[simp] theorem documents_setState (project : Project) (files : Folder) (store : Option Store) :
    (project.setState (project.place root id) { files, store }).documents root id =
      ⟨project.place root id, files⟩ := by
  simp [documents]

/-- The ways in which an implementation is known to stop: no further attempt at the call is allowed,
or the task list is missing or cannot be read, before or afterwards. -/
def StopsForeseeably (project : Project) (root : Path) (id : String)
    (report : Report ChangeStatus) (reason : Stop) : Prop :=
  (∃ step attempts failure, reason = .failure (.retriesExhausted step attempts failure)) ∨
    (project.documents root id).taskGraph = .error reason ∨
    (report.project.documents root id).taskGraph = .error reason

theorem StopsForeseeably.storable {report : Report ChangeStatus} {reason : Stop}
    (foreseen : StopsForeseeably project root id report reason) : ¬reason.IsUnstorable := by
  obtain ⟨_, _, _, rfl⟩ | unread | unread := foreseen
  · exact Stop.not_isUnstorable_failure _
  · exact Stop.not_isUnstorable_taskGraph unread
  · exact Stop.not_isUnstorable_taskGraph unread

/-- The implementer is found without anybody being asked, unless no program is known for its
role. -/
theorem findImplementer_cases {context : CycleContext} {middle after : World}
    {result : Except Stop CycleContext}
    (found : project.findImplementer means context middle = (result, after)) :
    (∃ fault, result = .error (.ofRole fault) ∧ after = middle) ∨
      ∃ provider, result = .ok { context with implementerProvider := provider } ∧
        middle.Unchanged after := by
  unfold findImplementer at found
  cases named : means.cast with
  | some cast =>
      rw [named] at found
      cases found
      exact .inr ⟨_, rfl, .refl middle⟩
  | none =>
      rw [named] at found
      dsimp only at found
      unfold standardImplementer at found
      cases resolved : AgentSetup.resolve project.settings project.environment .implementer with
      | error fault =>
          rw [resolved] at found
          cases found
          exact .inl ⟨fault, rfl, rfl⟩
      | ok setup =>
          rw [resolved] at found
          cases found
          exact .inr ⟨setup.provider, rfl, rfl, rfl, [], (List.append_nil _).symm, by simp⟩

theorem findImplementer_unbilled (project : Project) (means : Means) (context : CycleContext) :
    Run.Guarantees (.unbilled context.changeId) (project.findImplementer means context) := by
  intro world result last found
  obtain ⟨_, -, rfl⟩ | ⟨_, -, same⟩ := findImplementer_cases found
  · exact (Guarantee.unbilled _).refl _
  · exact same.unbilled _

/-- What books from the start of an implementation on has booked all that its run accepts. -/
theorem booked_of_books {store : Store} {last : World} {cast : Cast}
    {result : Except Stop ChangeStatus} (recorded : project.records root id = some store)
    (books : World.Books (project.implementContext root id means) []
      { project.start root id means store with agents := cast.agents } last) :
    (Report.mk result (project.setState (project.place root id)
        { files := last.files, store := some last.store }) last.events).Booked project root id := by
  obtain ⟨-, added, used, events, usage, booked⟩ := books
  refine ⟨used, ?_, ?_⟩
  · rw [usage_setState, usage_of_recorded recorded]
    exact usage
  · rw [show last.events = added from events]
    exact booked

variable (means) in
/-- **An implementation keeps its progress or the old record.**  In any but the two phases after an
approval it is refused at once.  If it gives a status, it has accepted one answer of the implementer
exactly if some task was not done, and the phase is that of the tasks as they are then.  If no
attempt is left, or the task list is not there or no task list, before or afterwards, then the
record of the change is what it was, and still each accepted answer is booked. -/
theorem implementation_keeps_all_or_nothing {change : Change}
    (known : project.change? root id = some change) :
    let report := project.implement root id means
    (¬change.phase.IsImplemented →
      report.result = .error (.failure (.transition change.phase .implementing)) ∧
        report.events = [] ∧ project.SameContents report.project) ∧
    (∀ status, report.result = .ok status →
      ∃ graph left after, (project.documents root id).taskGraph = .ok graph ∧
        (report.project.documents root id).taskGraph = .ok left ∧
        (graph.IsDone ∧ Event.acceptedCalls report.events = [] ∨
          ¬graph.IsDone ∧ ∃ answer,
            Event.acceptedCalls report.events = [(.implementer, "implement", answer)]) ∧
        report.project.change? root id = some after ∧
        after.phase = if left.IsDone then .complete else .implementing) ∧
    ∀ reason, report.result = .error reason →
      StopsForeseeably project root id report reason →
        report.project.change? root id = some change ∧ report.Booked project root id := by
  obtain ⟨store, recorded, found⟩ := Option.bind_eq_some_iff.mp known
  let context := project.implementContext root id means
  let start : World := { project.start root id means store with
    agents := (means.cast.getD .unassigned).agents }
  have there : start.store.find? context.changeId = some change := found
  rcases ran : Lifecycle.implement context (project.findImplementer means context) start with
    ⟨result, last⟩
  have whole : project.implement root id means = _ := within_of_recorded recorded ran
  rw [whole]
  dsimp only
  rw [change?_setState, documents_setState]
  by_cases working : change.phase.IsImplemented
  · have implements := implement_implements (findImplementer_unbilled project means context)
      findImplementer_same there working ran
    refine ⟨fun idle => absurd working idle, ?_, ?_⟩
    · rintro status rfl
      cases implements with
      | @finished graph left _ _ read reread calls booked kept shown =>
          refine ⟨graph, left, _, read, reread, calls, kept, ?_⟩
          have judged := TaskGraph.allDone_iff_isDone (ChangeFolder.taskGraph_filled reread)
          simp only [Change.progressed, judged]
    · rintro reason rfl foreseen
      have storable := foreseen.storable
      cases implements with
      | stopped kept booked =>
          exact ⟨kept, booked_of_books recorded (booked.resolve_right storable)⟩
      | finished read reread calls booked kept shown =>
          -- Once progress is kept, only the status can fail, and not for one of these reasons.
          obtain ⟨_, impossible⟩ | ⟨fault, -, same⟩ := shown
          · cases impossible
          cases same
          obtain ⟨_, _, _, impossible⟩ | unread | unread := foreseen
          · cases impossible
          · cases read.symm.trans unread
          · rw [documents_setState] at unread
            cases reread.symm.trans unread
  · rw [implement_refused there working] at ran
    obtain ⟨rfl, rfl⟩ := Prod.mk.inj ran
    refine ⟨fun _ => ⟨rfl, rfl, ?_⟩, ?_, fun reason _ _ => ⟨found, ?_⟩⟩
    · have same : project.state (project.place root id) = { files := start.files, store } :=
        congrArg (ChangeState.mk _) recorded
      have unchanged := project.sameContents_setState (project.place root id)
      rwa [same] at unchanged
    · intro status impossible
      cases impossible
    · have known : start.store.Knows context.changeId fun _ => True := ⟨change, found, trivial⟩
      exact booked_of_books recorded (.of_unbilled known ((Guarantee.unbilled _).refl start))

end Project

namespace TwoTurns

open PlanCycle.Cycle ChangeFolder

/-- The least plan has the one task to do. -/
theorem taskGraph_documents {project : Project}
    (least : (project.documents root change.id).files = leastPlan) :
    (project.documents root change.id).taskGraph = .ok leastGraph := by
  have read : Lifecycle.taskGraph context { files := leastPlan } = (.ok leastGraph, _) :=
    taskGraph_leastPlan rfl
  have graph := (Lifecycle.taskGraph_cases read).1
  exact (congrArg (fun files => ChangeFolder.taskGraph ⟨_, files⟩) least).trans graph

/-- An implementer who writes nothing leaves the plan as it was. -/
theorem documents_implemented (answer : AgentAnswer) :
    ((approvedProject.implement root change.id
      (meansOf (implementer answer))).project.documents root change.id).files = leastPlan := by
  let context := implementingBy (implementer answer)
  obtain ⟨after, events, files, -, ran⟩ := implement_asks answer
  have finishing : Run.Guarantees sameFiles (Lifecycle.finish context) := by
    refine .bind (Lifecycle.taskGraph_guarantees _) fun graph => .bind (.session ?_ _) fun _ => ?_
    · exact fun _ _ => rfl
    · exact .bind (.say _) fun _ => Lifecycle.status_guarantees _ _
  have quiet : Run.Guarantees sameFiles
      (Run.session (do let _ ← recordUsage context "implement" answer) >>= fun _ =>
        Lifecycle.finish context) :=
    .bind (.session (fun _ _ => rfl) _) fun _ => finishing
  rcases went : Lifecycle.implement context (Run.done context)
    (approvedWorld (implementer answer) []) with ⟨result, last⟩
  rw [implement_approvedBy went, Project.documents_setState]
  exact (quiet (ran.symm.trans went)).trans files

/-- One answer of the implementer is accepted, the task is as before, and the change is being
implemented. -/
theorem approved_plan_is_implemented :
    let report := approvedProject.implement root change.id (meansOf (implementer (answerOver 5)))
    approvedProject.change? root change.id = some approvedChange ∧
      (∃ status, report.result = .ok status) ∧
      (∃ answer, Event.acceptedCalls report.events = [(.implementer, "implement", answer)]) ∧
      ∃ after, report.project.change? root change.id = some after ∧
        after.phase = .implementing := by
  have known : approvedProject.change? root change.id = some approvedChange := rfl
  have storable : (answerOver 5).IsStorable := ⟨⟨"m", rfl⟩, by decide, by decide⟩
  obtain ⟨status, ended⟩ := implement_gives storable
  obtain ⟨-, gives, -⟩ :=
    Project.implementation_keeps_all_or_nothing (meansOf (implementer (answerOver 5))) known
  obtain ⟨graph, left, after, read, reread, calls, kept, phase⟩ := gives status ended
  have undone : ¬leastGraph.IsDone := by decide
  cases read.symm.trans (taskGraph_documents rfl)
  cases reread.symm.trans (taskGraph_documents (documents_implemented (answerOver 5)))
  obtain ⟨impossible, -⟩ | ⟨-, accepted⟩ := calls
  · exact absurd impossible undone
  · exact ⟨known, ⟨status, ended⟩, accepted, after, kept, phase.trans (if_neg undone)⟩

end TwoTurns

end PlanCycle
