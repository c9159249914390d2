/-
Module: PlanCycle.Proofs.FailedImplementation
Purpose: What is on record of an implementation that fails: what its calls used at most, and no row
  of the execution log, at whichever of its points it fails.  Only progress that was kept is logged.
Main exports:
  AgentCall.run_stops, Store.SameButUsage, Lifecycle.StopsBy, Lifecycle.Ends,
  Lifecycle.implement_ends, Project.AccountsFor, Project.failed_implementation_is_unlogged
-/
import PlanCycle.Proofs.Attempts
import PlanCycle.Proofs.Implementation
import PlanCycle.Proofs.StepLog

namespace PlanCycle

/-! ### What stops a call -/

/-- A call that takes up no conversation can be put to every provider. -/
theorem AgentSetup.words_anew {setup : AgentSetup} {fault : CommandFault}
    (refused : setup.words .none = .error fault) : fault = .unfinishedCommand := by
  unfold words at refused
  split at refused
  · cases refused
    rfl
  · split at refused
    · rename_i unworded
      obtain ⟨-, _, impossible⟩ := (Provider.arguments?_eq_none_iff _ _ _).1 unworded
      cases impossible
    · cases refused

namespace AgentCall

variable {call : AgentCall} {context : CycleContext} {accept : Folder → AgentAnswer → Bool}
variable {world last : World} {reason : Stop}

/-- A program that was run for a call gives no answer because it fails, or the call breaks down. -/
theorem resultOf_error {setup : AgentSetup} {words : List String} {ending : ProcessResult}
    (unanswered : call.resultOf setup words ending = .error reason) :
    (∃ status stderr, reason = .failure (.invocation status stderr)) ∨
      ∃ breakdown, reason = .breakdown breakdown := by
  unfold resultOf at unanswered
  split at unanswered
  · exact AgentSetup.answer_error unanswered
  · cases unanswered
    exact .inr ⟨_, rfl⟩

/-- An attempt that ends a call without an answer breaks down, unless a conversation has to be taken
up for it, or whoever is asked ends in another failure without a program that is run. -/
theorem Settles.stops (settles : call.Settles context.root accept world (.error reason) last)
    (anew : call.resume = .none) :
    (∃ breakdown, reason = .breakdown breakdown) ∨
      ∃ failure, reason = .failure failure ∧ isRetried failure = false ∧
        last.events = world.events ++ [.asked call world.files] := by
  cases settles with
  | stopped stopped called filled =>
      rcases invoke_cases stopped with
        ⟨_, _, _, _, _, events⟩ | ⟨_, _, _, refused, same, _⟩ | ⟨_, _, _, _, _, given, _⟩
      · cases reason with
        | breakdown breakdown => exact .inl ⟨breakdown, rfl⟩
        | failure failure =>
            exact .inr ⟨failure, rfl, isRetried_of_settled called filled, events⟩
      · rw [anew] at refused
        cases same
        rw [AgentSetup.words_anew refused]
        exact .inl ⟨_, rfl⟩
      · rcases resultOf_error given.symm with ⟨_, _, rfl⟩ | brokenDown
        · exact absurd rfl (called _ _)
        · exact .inl brokenDown

/-- A call that gives no answer has failed as often as the policy allows, or it breaks down, or with
its last question whoever is asked ends in a failure after which it is not asked again. -/
theorem run_stops (ran : call.run context accept world = (.error reason, last))
    (anew : call.resume = .none) :
    (∃ failure failures,
        reason = .failure (.retriesExhausted call.step context.policy.attempts failure) ∧
        call.Asked context.policy context.policy.attempts failures world last) ∨
      (∃ breakdown, reason = .breakdown breakdown) ∨
      ∃ failure earlier files, reason = .failure failure ∧ isRetried failure = false ∧
        last.events = world.events ++ (earlier ++ [.asked call files]) := by
  cases attempts : context.policy.attempts with
  | zero =>
      rw [run, attempts] at ran
      cases ran
      exact .inr (.inl ⟨_, rfl⟩)
  | succ retries =>
      have begun : call.Retries context accept world [] world := .none
      cases begun.continued (Nat.zero_add retries) with
      | @settled failures after _ _ earlier within settles =>
          cases ran.symm.trans (earlier.settled (by omega) settles).1
          refine .inr ((settles.stops anew).imp_right ?_)
          rintro ⟨failure, cause, final, events⟩
          obtain ⟨added, before, -⟩ := earlier.asked
          exact ⟨failure, added, after.files, cause, final, by
            rw [events, before, List.append_assoc]⟩
      | @exhausted failures _ _ failure earlier counted fails =>
          obtain ⟨exhausted, asked⟩ := earlier.exhausted (by omega) fails
          cases ran.symm.trans exhausted
          rw [← attempts]
          exact .inl ⟨failure, failures, rfl, asked⟩
      | refused earlier within fails refused =>
          cases ran.symm.trans (earlier.refused (by omega) fails refused).1
          exact .inr (.inl ⟨_, rfl⟩)

end AgentCall

/-! ### What is only shown -/

theorem Event.IsShown.question? {event : Event} (shown : event.IsShown) :
    event.question? = none := by
  unfold IsShown at shown
  split at shown
  · rfl
  · rfl
  · rfl
  · rfl
  · cases shown

theorem Event.questions_of_isShown {events : List Event}
    (shown : ∀ event ∈ events, event.IsShown) : events.filterMap question? = [] :=
  List.filterMap_eq_nil_iff.2 fun event member => (shown event member).question?

theorem Event.acceptedCalls_shown_append {shown : List Event}
    (lines : ∀ event ∈ shown, event.IsShown) (events : List Event) :
    acceptedCalls (shown ++ events) = acceptedCalls events := by
  rw [acceptedCalls_append, acceptedCalls_of_isShown lines, List.nil_append]

/-! ### What is kept of progress -/

/-- Whether a store holds the records of another one, those of usage apart. -/
def Store.SameButUsage (before after : Store) : Prop :=
  ∃ usage, after = { before with usage }

namespace Store.SameButUsage

variable {before after : Store}

theorem of_eq (same : after = before) : before.SameButUsage after :=
  ⟨before.usage, same⟩

theorem log (same : before.SameButUsage after) : after.log = before.log := by
  obtain ⟨usage, rfl⟩ := same
  rfl

theorem find? (same : before.SameButUsage after) (id : String) :
    after.find? id = before.find? id := by
  obtain ⟨usage, rfl⟩ := same
  rfl

end Store.SameButUsage

namespace Session

variable {id : String} {store : Store} {change : Change} {reason : Stop}

theorem save_error (stopped : save change store = .error reason) :
    reason = .breakdown .overflow := by
  unfold save at stopped
  cases fit : fits [change.iteration] with
  | true =>
      have small : requireFit [change.iteration] store = .ok ((), store) :=
        requireFit_ok_iff.2 ⟨fit, rfl⟩
      rw [bind_of_ok small] at stopped
      cases stopped
  | false =>
      rw [bind_of_error (requireFit_of_unfit fit store)] at stopped
      cases stopped
      rfl

theorem modify_error {edit : Change → Change} (found : store.find? id = some change)
    (stopped : modify id edit store = .error reason) : reason = .breakdown .overflow := by
  unfold modify at stopped
  rw [bind_of_ok (load_ok_iff.2 ⟨found, rfl⟩)] at stopped
  rcases bind_error stopped with unsaved | ⟨_, _, _, impossible⟩
  · exact save_error unsaved
  · cases impossible

theorem advance_error {step : Change → Except Failure Change} {moved : Change}
    (found : store.find? id = some change) (allowed : step change = .ok moved)
    (stopped : advance id step store = .error reason) : reason = .breakdown .overflow := by
  unfold advance at stopped
  rw [bind_of_ok (load_ok_iff.2 ⟨found, rfl⟩), allowed] at stopped
  rcases bind_error stopped with unsaved | ⟨_, _, _, impossible⟩
  · exact save_error unsaved
  · cases impossible

end Session

namespace Lifecycle

/-- The row about how far an implementation is. -/
def progressEntry (id : String) (graph : TaskGraph) : LogEntry :=
  { changeId := id, step := "implement", event := "completed"
    details := .object [("done", .int graph.progress.1), ("total", .int graph.progress.2)] }

section
variable {id : String} {graph : TaskGraph} {store last : Store} {change : Change} {value : Unit}
variable {reason : Stop}

theorem noteProgress_log (worked : noteProgress id graph store = .ok (value, last)) :
    last.log = store.log ++ [progressEntry id graph] := by
  obtain ⟨_, _, edited, worked⟩ := Session.bind_ok_iff.1 worked
  obtain ⟨_, -, -, -, rfl⟩ := Session.modify_ok_iff.1 edited
  obtain ⟨_, _, logged, ended⟩ := Session.bind_ok_iff.1 worked
  obtain ⟨-, rfl⟩ := (Session.logEvent_ok_iff rfl).1 logged
  obtain ⟨-, rfl⟩ := Session.pure_ok_iff.1 ended
  rfl

theorem completeProgress_log (worked : completeProgress id graph store = .ok (value, last)) :
    last.log = store.log ++ [progressEntry id graph] := by
  unfold completeProgress at worked
  split at worked
  · obtain ⟨_, _, advanced, noted⟩ := Session.bind_ok_iff.1 worked
    obtain ⟨_, -, -, -, rfl⟩ := Session.advance_ok_iff.1 advanced
    have logged := noteProgress_log noted
    exact logged
  · exact noteProgress_log worked

/-- Progress that is kept is logged, in one row. -/
theorem keepProgress_log (worked : keepProgress id graph store = .ok (value, last)) :
    last.log = store.log ++ [progressEntry id graph] := by
  rw [keepProgress_eq] at worked
  obtain ⟨_, _, loaded, progressed⟩ := Session.bind_ok_iff.1 worked
  obtain ⟨-, rfl⟩ := Session.load_ok_iff.1 loaded
  split at progressed
  · obtain ⟨_, _, advanced, completed⟩ := Session.bind_ok_iff.1 progressed
    obtain ⟨_, -, -, -, rfl⟩ := Session.advance_ok_iff.1 advanced
    have logged := completeProgress_log completed
    exact logged
  · exact completeProgress_log progressed

theorem noteProgress_error (found : store.find? id = some change)
    (stopped : noteProgress id graph store = .error reason) : reason = .breakdown .overflow := by
  rcases Session.bind_error stopped with unsaved | ⟨_, after, -, stopped⟩
  · exact Session.modify_error found unsaved
  · rw [Session.bind_of_ok ((Session.logEvent_ok_iff rfl).2 ⟨rfl, rfl⟩)] at stopped
    cases stopped

theorem completeProgress_error (found : store.find? id = some change)
    (implementing : change.phase = .implementing)
    (stopped : completeProgress id graph store = .error reason) :
    reason = .breakdown .overflow := by
  unfold completeProgress at stopped
  split at stopped
  · have allowed : change.moveTo .complete = .ok { change with phase := .complete } :=
      Change.moveTo_ok_iff.2 ⟨by simp [implementing, Phase.next], rfl⟩
    rcases Session.bind_error stopped with unsaved | ⟨_, after, advanced, stopped⟩
    · exact Session.advance_error found allowed unsaved
    · obtain ⟨-, there⟩ := Session.advance_finds found (fun _ _ => Change.moveTo_id) advanced
      exact noteProgress_error there stopped
  · exact noteProgress_error found stopped

/-- Progress can only not be kept because a number is too great for a record. -/
theorem keepProgress_error (found : store.find? id = some change)
    (working : change.phase.IsImplemented)
    (stopped : keepProgress id graph store = .error reason) : reason = .breakdown .overflow := by
  rw [keepProgress_eq, Session.bind_of_ok (Session.load_ok_iff.2 ⟨found, rfl⟩)] at stopped
  split at stopped
  · rename_i challenged
    have allowed : change.moveTo .implementing = .ok { change with phase := .implementing } :=
      Change.moveTo_ok_iff.2 ⟨by simp [challenged, Phase.next], rfl⟩
    rcases Session.bind_error stopped with unsaved | ⟨_, after, advanced, stopped⟩
    · exact Session.advance_error found allowed unsaved
    · obtain ⟨stepped, there⟩ :=
        Session.advance_finds found (fun _ _ => Change.moveTo_id) advanced
      cases allowed.symm.trans stepped
      exact completeProgress_error there rfl stopped
  · rename_i started
    exact completeProgress_error found (working.resolve_left started) stopped

end

/-! ### What stops an implementation -/

/-- What stops an implementation that is allowed so many attempts, by the documents before and after
it and by what happened until then. -/
inductive StopsBy (attempts : Nat) (before after : ChangeFolder) (events : List Event) :
    Stop → Prop
  /-- The task list is missing or no task list, and nobody is asked. -/
  | unread {reason : Stop} (refused : before.taskGraph = .error reason)
      (shown : ∀ event ∈ events, event.IsShown) : StopsBy attempts before after events reason
  /-- There is no implementer to ask. -/
  | unmanned {fault : RoleFault} (shown : ∀ event ∈ events, event.IsShown) :
      StopsBy attempts before after events (.ofRole fault)
  /-- All attempts that are allowed were made and have failed. -/
  | exhausted {failure : Failure} {call : AgentCall}
      (asked : events.filterMap Event.question? = .replicate attempts call)
      (unaccepted : Event.acceptedCalls events = []) :
      StopsBy attempts before after events
        (.failure (.retriesExhausted "implement" attempts failure))
  /-- Asked for the last time, the implementer ends in a failure after which it is not asked
  again. -/
  | ended {failure : Failure} {earlier : List Event} {call : AgentCall} {files : Folder}
      (final : AgentCall.isRetried failure = false)
      (last : events = earlier ++ [.asked call files])
      (unaccepted : Event.acceptedCalls events = []) :
      StopsBy attempts before after events (.failure failure)
  /-- Something breaks down before an answer is accepted. -/
  | broken {breakdown : Breakdown} (unaccepted : Event.acceptedCalls events = []) :
      StopsBy attempts before after events (.breakdown breakdown)
  /-- An answer or the progress cannot be stored. -/
  | unstored {reason : Stop} (unstorable : reason.IsUnstorable) :
      StopsBy attempts before after events reason
  /-- The task list is missing or no task list once the implementer has answered. -/
  | reread {reason : Stop} {answer : AgentAnswer}
      (accepted : Event.acceptedCalls events = [(.implementer, "implement", answer)])
      (refused : after.taskGraph = .error reason) : StopsBy attempts before after events reason

namespace StopsBy

variable {attempts : Nat} {before after : ChangeFolder} {events shown : List Event} {reason : Stop}

/-- Lines and warnings that come first do not matter. -/
theorem after_shown (lines : ∀ event ∈ shown, event.IsShown)
    (stops : StopsBy attempts before after events reason) :
    StopsBy attempts before after (shown ++ events) reason := by
  have accepted := Event.acceptedCalls_shown_append lines events
  cases stops with
  | unread refused more => exact .unread refused (List.forall_mem_append.mpr ⟨lines, more⟩)
  | unmanned more => exact .unmanned (List.forall_mem_append.mpr ⟨lines, more⟩)
  | @exhausted _ call asked unaccepted =>
      have questions : (shown ++ events).filterMap Event.question? = .replicate attempts call := by
        rw [List.filterMap_append, Event.questions_of_isShown lines, List.nil_append, asked]
      exact .exhausted questions (accepted.trans unaccepted)
  | ended final last unaccepted =>
      have traced := (congrArg (shown ++ ·) last).trans (List.append_assoc ..).symm
      exact .ended final traced (accepted.trans unaccepted)
  | broken unaccepted => exact .broken (accepted.trans unaccepted)
  | unstored unstorable => exact .unstored unstorable
  | reread answered refused => exact .reread (accepted.trans answered) refused

end StopsBy

section
variable {context : CycleContext} {world last : World}

/-- Tasks that are handed over are answered, and at most what that used is new on record; or the
implementation stops here, and no record is touched. -/
theorem HandsOver.ends {pending : List String} {result : Except Stop Unit}
    (hands : HandsOver context pending world result last) :
    ∃ added, last.events = world.events ++ added ∧
      ((result = .ok () ∧ world.store.SameButUsage last.store ∧
          ∃ answer, Event.acceptedCalls added = [(.implementer, "implement", answer)]) ∨
        ∃ reason, result = .error reason ∧ last.store = world.store ∧
          ∀ before after, StopsBy context.policy.attempts before after added reason) := by
  cases hands with
  | unasked =>
      exact ⟨[], (List.append_nil _).symm, .inr ⟨_, rfl, rfl, fun _ _ => .broken rfl⟩⟩
  | unanswered stopped =>
      have quiet : (Guarantee.unbilled context.changeId).holds world last :=
        AgentCall.run_unbilled stopped
      obtain ⟨⟨-, added, events, unaccepted⟩, -⟩ := quiet
      refine ⟨added, events, .inr ⟨_, rfl, AgentCall.store_run stopped, ?_⟩⟩
      obtain ⟨failure, _, rfl, more, moreEvents, questions, -⟩ | ⟨breakdown, rfl⟩ |
          ⟨failure, earlier, files, rfl, final, traced⟩ := AgentCall.run_stops stopped rfl
      · cases List.append_cancel_left (events.symm.trans moreEvents)
        exact fun _ _ => .exhausted questions unaccepted
      · exact fun _ _ => .broken unaccepted
      · have asking := List.append_cancel_left (events.symm.trans traced)
        exact fun _ _ => .ended final asking unaccepted
  | unstored asked unstorable =>
      obtain ⟨tried, events, -⟩ := AgentCall.events_run asked
      have store := AgentCall.store_run asked
      exact ⟨_, by rw [World.events_shows, events, List.append_assoc],
        .inr ⟨_, rfl, store, fun _ _ => .unstored unstorable⟩⟩
  | @recorded _ answer _ _ usage asked store events =>
      obtain ⟨tried, askedEvents, accepted⟩ := AgentCall.events_run asked
      rw [AgentCall.store_run asked] at store
      refine ⟨_, by rw [events, askedEvents, List.append_assoc],
        .inl ⟨rfl, ⟨usage, store⟩, answer, ?_⟩⟩
      rw [Event.acceptedCalls_append, accepted, Cycle.acceptedCalls_usageWarnings, List.append_nil]
      rfl

/-- How an implementation ends.  It is stopped, and all records but those of usage are as they were;
or it is through, and the log says how far the tasks are.  Then it gives a status, unless the
documents of the plan cannot be listed for it. -/
inductive Ends (context : CycleContext) (before : World) : Except Stop ChangeStatus → World → Prop
  | stopped {reason : Stop} {after : World} {added : List Event}
      (events : after.events = before.events ++ added)
      (point : StopsBy context.policy.attempts (context.folder before) (context.folder after) added
        reason)
      (records : before.store.SameButUsage after.store) :
      Ends context before (.error reason) after
  | through {graph left : TaskGraph} {result : Except Stop ChangeStatus} {after : World}
      (read : (context.folder before).taskGraph = .ok graph)
      (reread : (context.folder after).taskGraph = .ok left)
      (log : after.store.log = before.store.log ++ [progressEntry context.changeId left])
      (shown : (∃ status, result = .ok status) ∨
        ∃ fault, (context.folder after).required = .error fault ∧ result = .error (.ofFile fault)) :
      Ends context before result after

section
variable {change : Change} {result : Except Stop ChangeStatus}

/-- With the look at the tasks an implementation ends.  If it is stopped by the task list, that is
one that the implementer has left. -/
theorem Finishes.ends {graph : TaskGraph} {middle : World} {added : List Event}
    (finishes : Finishes context middle result last)
    (read : (context.folder world).taskGraph = .ok graph)
    (found : middle.store.find? context.changeId = some change)
    (working : change.phase.IsImplemented) (events : middle.events = world.events ++ added)
    (records : world.store.SameButUsage middle.store)
    (answered : ∀ reason, (context.folder middle).taskGraph = .error reason →
      ∃ answer, Event.acceptedCalls added = [(.implementer, "implement", answer)]) :
    Ends context world result last := by
  cases finishes with
  | @unread reason _ refused same =>
      obtain ⟨answer, accepted⟩ := answered reason refused
      obtain ⟨shown, more, lines⟩ := same.shown
      have traced : last.events = world.events ++ (added ++ shown) := by
        rw [more, events, List.append_assoc]
      have calls : Event.acceptedCalls (added ++ shown) =
          [(.implementer, "implement", answer)] := by
        rw [Event.acceptedCalls_append, accepted, Event.acceptedCalls_of_isShown lines,
          List.append_nil]
      exact .stopped traced (.reread calls (same.folder context ▸ refused)) (same.store ▸ records)
  | @unkept _ reason _ _ stopped same =>
      obtain ⟨shown, more, -⟩ := same.shown
      have traced : last.events = world.events ++ (added ++ shown) := by
        rw [more, events, List.append_assoc]
      have unstorable : reason.IsUnstorable := .inl (keepProgress_error found working stopped)
      exact .stopped traced (.unstored unstorable) (same.store ▸ records)
  | kept reread worked =>
      have log := keepProgress_log worked
      rw [records.log] at log
      exact .through read reread log (statusOf_cases (keepProgress_finds found working worked))

/-- A task list that is not there or no task list stops an implementation at once. -/
theorem implement_unread {implementer : Run CycleContext} {reason : Stop}
    (refused : (context.folder world).taskGraph = .error reason)
    (found : world.store.find? context.changeId = some change)
    (working : change.phase.IsImplemented)
    (ran : implement context implementer world = (result, last)) : result = .error reason := by
  cases implement_proceeds found working ran with
  | unread same _ =>
      cases refused.symm.trans same
      rfl
  | idle read _ _ _ => cases refused.symm.trans read
  | unmanned read _ _ => cases refused.symm.trans read
  | left read _ _ _ _ => cases refused.symm.trans read

/-- An implementation ends in one of these ways, if whoever finds the implementer only looks. -/
theorem implement_ends {implementer : Run CycleContext}
    (lost : ∀ {middle reason after}, implementer middle = (.error reason, after) →
      after = middle ∧ ∃ fault, reason = .ofRole fault)
    (given : ∀ {middle other ready}, implementer middle = (.ok other, ready) →
      middle.Unchanged ready ∧ other.policy = context.policy)
    (found : world.store.find? context.changeId = some change)
    (working : change.phase.IsImplemented)
    (ran : implement context implementer world = (result, last)) :
    Ends context world result last := by
  cases implement_proceeds found working ran with
  | unread refused same =>
      obtain ⟨shown, events, lines⟩ := same.shown
      exact .stopped events (.unread refused lines) (.of_eq same.store)
  | @idle graph _ middle _ read done same ended =>
      obtain ⟨shown, events, -⟩ := same.shown
      refine (finish_finishes ended).ends read (same.store ▸ found) working events
        (.of_eq same.store) ?_
      intro reason refused
      rw [same.folder, read] at refused
      cases refused
  | unmanned _ same unfound =>
      obtain ⟨rfl, fault, rfl⟩ := lost unfound
      obtain ⟨shown, events, lines⟩ := same.shown
      exact .stopped events (.unmanned lines) (.of_eq same.store)
  | left read undone same known ran =>
      obtain ⟨kept, policy⟩ := given known
      have ready := same.trans kept
      obtain ⟨shown, events, lines⟩ := ready.shown
      rcases Run.bind_cases ran with ⟨reason, halted, rfl⟩ | ⟨_, later, handed, ran⟩
      · obtain ⟨added, more, ⟨impossible, -⟩ | ⟨_, cause, store, stops⟩⟩ :=
          (implementTasks_handsOver halted).ends
        · cases impossible
        cases cause
        rw [policy] at stops
        have traced : last.events = world.events ++ (shown ++ added) := by
          rw [more, events, List.append_assoc]
        exact .stopped traced ((stops _ _).after_shown lines) (.of_eq (store.trans ready.store))
      · obtain ⟨added, more, ⟨-, records, answer, accepted⟩ | ⟨_, impossible, -⟩⟩ :=
          (implementTasks_handsOver handed).ends
        · rw [ready.store] at records
          have traced : later.events = world.events ++ (shown ++ added) := by
            rw [more, events, List.append_assoc]
          have calls := (Event.acceptedCalls_shown_append lines added).trans accepted
          exact (finish_finishes ran).ends read ((records.find? _).trans found) working traced
            records fun _ _ => ⟨answer, calls⟩
        · cases impossible

end

end

end Lifecycle

/-! ### Runs on a change -/

namespace Project

open Lifecycle

variable {project : Project} {root : Path} {id : String} {means : Means}

/-- How often a run may try a call. -/
def attempts (project : Project) (means : Means) : Nat :=
  (means.policy.getD (.ofSettings project.settings)).attempts

/-- Whether the log has gained a row about the failure of an implementation, in the words of that
failure if it has any. -/
def AccountsFor (project : Project) (root : Path) (id : String) (report : Report ChangeStatus)
    (reason : Stop) : Prop :=
  ∃ rows, report.project.log root id = project.log root id ++ rows ∧
    ∃ row ∈ rows, row.step = "implement" ∧ row.IsFailure ∧
      ∀ failure, reason = .failure failure → row.message = some failure.message

/-- Whether records are as they were but for those of usage. -/
def KeepsAllButUsage (project : Project) (root : Path) (id : String)
    (report : Report ChangeStatus) : Prop :=
  ∃ usage, report.project.records root id =
    (project.records root id).map fun store => { store with usage }

/-- Whether the log has gained one row, about how far the tasks are. -/
def LogsProgress (project : Project) (root : Path) (id : String)
    (report : Report ChangeStatus) : Prop :=
  ∃ left, (report.project.documents root id).taskGraph = .ok left ∧
    report.project.log root id = project.log root id ++ [progressEntry id left]

section
variable {report : Report ChangeStatus}

theorem KeepsAllButUsage.log (keeps : project.KeepsAllButUsage root id report) :
    report.project.log root id = project.log root id := by
  obtain ⟨usage, records⟩ := keeps
  unfold Project.log
  rw [records]
  cases project.records root id with
  | none => rfl
  | some store => rfl

/-- Nothing in the log accounts for a failure that has left the log as it was. -/
theorem KeepsAllButUsage.unaccounted (keeps : project.KeepsAllButUsage root id report)
    (reason : Stop) : ¬project.AccountsFor root id report reason := by
  rintro ⟨rows, log, row, member, -⟩
  have no_rows : rows = [] := List.append_right_eq_self.mp (log.symm.trans keeps.log)
  rw [no_rows] at member
  cases member

/-- The row about progress does not account for a failure. -/
theorem LogsProgress.unaccounted (logs : project.LogsProgress root id report) (reason : Stop) :
    ¬project.AccountsFor root id report reason := by
  obtain ⟨left, -, progress⟩ := logs
  rintro ⟨rows, log, row, member, -, failed, -⟩
  cases List.append_cancel_left (log.symm.trans progress)
  obtain rfl := List.mem_singleton.mp member
  exact absurd failed (by simp [LogEntry.IsFailure, progressEntry])

end

variable (means) in
/-- How an implementation of a change ends that is not refused: it is stopped, and no record but
those of usage is touched; or its progress is logged, and it gives a status unless the documents of
the plan cannot be listed for that.  A task list that cannot be read stops it at once. -/
theorem implement_stopped_or_logged {change : Change}
    (known : project.change? root id = some change) (working : change.phase.IsImplemented) :
    let report := project.implement root id means
    ((∃ reason, report.result = .error reason ∧
        StopsBy (project.attempts means) (project.documents root id)
          (report.project.documents root id) report.events reason ∧
        project.KeepsAllButUsage root id report) ∨
      (∃ graph, (project.documents root id).taskGraph = .ok graph) ∧
        project.LogsProgress root id report ∧
        ((∃ status, report.result = .ok status) ∨
          ∃ fault, (report.project.documents root id).required = .error fault ∧
            report.result = .error (.ofFile fault))) ∧
    ∀ reason, (project.documents root id).taskGraph = .error reason →
      report.result = .error reason := by
  obtain ⟨store, recorded, found⟩ := Option.bind_eq_some_iff.mp known
  let context := project.implementContext root id means
  let start : World := { project.start root id means store with
    agents := (means.cast.getD .unassigned).agents }
  have there : start.store.find? context.changeId = some change := found
  rcases ran : Lifecycle.implement context (project.findImplementer means context) start with
    ⟨result, last⟩
  have whole : project.implement root id means = _ := within_of_recorded recorded ran
  have ends : Ends context start result last := by
    refine implement_ends (fun lost => ?_) (fun given => ?_) there working ran
    · rcases findImplementer_cases lost with ⟨fault, cause, same⟩ | ⟨_, impossible, _⟩
      · cases cause
        exact ⟨same, fault, rfl⟩
      · cases impossible
    · rcases findImplementer_cases given with ⟨_, impossible, _⟩ | ⟨provider, same, unchanged⟩
      · cases impossible
      · cases same
        exact ⟨unchanged, rfl⟩
  have kept : (project.setState (project.place root id)
      { files := last.files, store := some last.store }).records root id = some last.store := by
    rw [records, place_setState, state_setState]
  rw [whole]
  dsimp only
  rw [documents_setState]
  have unread : ∀ reason, (context.folder start).taskGraph = .error reason →
      result = .error reason := fun reason refused => implement_unread refused there working ran
  refine ⟨?_, unread⟩
  cases ends with
  | stopped events point records =>
      obtain ⟨usage, store⟩ := records
      refine .inl ⟨_, rfl, ?_, usage, ?_⟩
      · rw [show last.events = _ from events]
        exact point
      · rw [kept, recorded, store]
        rfl
  | @through graph left _ _ read reread log shown =>
      refine .inr ⟨⟨graph, read⟩, ⟨left, ?_, ?_⟩, shown⟩
      · rw [documents_setState]
        exact reread
      · rw [log_of_recorded recorded, log_of_recorded kept]
        exact log

/-- A failure that is reported leaves all records but those of usage as they were. -/
theorem implement_failure {change : Change} {failure : Failure}
    (known : project.change? root id = some change) (working : change.phase.IsImplemented)
    (failed : (project.implement root id means).result = .error (.failure failure)) :
    project.KeepsAllButUsage root id (project.implement root id means) := by
  obtain ⟨⟨_, -, -, keeps⟩ | ⟨-, -, ⟨_, ended⟩ | ⟨_, -, ended⟩⟩, -⟩ :=
    implement_stopped_or_logged means known working
  · exact keeps
  · cases ended.symm.trans failed
  · cases ended.symm.trans failed

variable (means) in
/-- **A failed implementation leaves nothing in the log.**  Whatever stops the implementation of a
change in one of the two phases after an approval, no row of the log accounts for it.  If no attempt
is left, or the task list is not there or no task list, before or afterwards, then the log is what
it was, and so are all other records but those of usage.  The same holds at every other point at
which it can stop, but for one: if progress was kept and then the documents of the plan cannot be
listed.  Then the log has the one row about progress that it has after an implementation that gives
a status. -/
theorem failed_implementation_is_unlogged {change : Change}
    (known : project.change? root id = some change) (working : change.phase.IsImplemented) :
    let report := project.implement root id means
    (∀ reason, report.result = .error reason →
      ¬project.AccountsFor root id report reason ∧
      (StopsForeseeably project root id report reason →
        project.KeepsAllButUsage root id report) ∧
      (StopsBy (project.attempts means) (project.documents root id)
            (report.project.documents root id) report.events reason ∧
          project.KeepsAllButUsage root id report ∨
        project.LogsProgress root id report ∧
          ∃ fault, (report.project.documents root id).required = .error fault ∧
            reason = .ofFile fault)) ∧
    (∀ status, report.result = .ok status → project.LogsProgress root id report) ∧
    ∀ reason, (project.documents root id).taskGraph = .error reason →
      report.result = .error reason := by
  intro report
  obtain ⟨ends, unread⟩ := implement_stopped_or_logged means known working
  rcases ends with ⟨cause, stopped, point, keeps⟩ | ⟨⟨graph, read⟩, logs, shown⟩
  · refine ⟨fun reason failed => ?_, fun status ended => ?_, unread⟩
    · cases stopped.symm.trans failed
      exact ⟨keeps.unaccounted cause, fun _ => keeps, .inl ⟨point, keeps⟩⟩
    · cases stopped.symm.trans ended
  · refine ⟨fun reason failed => ?_, fun _ _ => logs, unread⟩
    rcases shown with ⟨status, ended⟩ | ⟨fault, unlisted, ended⟩
    · cases ended.symm.trans failed
    · cases ended.symm.trans failed
      refine ⟨logs.unaccounted _, fun foreseen => ?_, .inr ⟨logs, fault, unlisted, rfl⟩⟩
      -- What cannot be listed is none of the foreseeable reasons once progress is logged.
      obtain ⟨left, reread, -⟩ := logs
      obtain ⟨_, _, _, impossible⟩ | refused | refused := foreseen
      · cases impossible
      · cases read.symm.trans refused
      · cases reread.symm.trans refused

end Project

/-! ### Implementations of the least plan that fail -/

namespace TwoTurns

open PlanCycle.Cycle ChangeFolder

/-- An implementer that cannot be reached. -/
def refusing : Role → Agent
  | _ => .ready { answer := .error (.failure (.invocation (some 1) "no connection")) } []

/-- What the calls to it end with: three attempts are allowed. -/
def givenUp : Failure :=
  .retriesExhausted "implement" 3 (.invocation (some 1) "no connection")

/-- An implementer that writes over the task list. -/
def spoiling : Role → Agent
  | _ => .ready { answer := .ok (answerOver 5)
                  edits := [.write (Artifact.file .tasks) (.text "done")] } []

/-- The plan with that in place of the task list. -/
def spoiledPlan : Folder := leastPlan.edited [.write (Artifact.file .tasks) (.text "done")]

/-- The project in which the plan is spoiled after it was approved. -/
def spoiledProject : Project :=
  let place := Project.place {} root change.id
  { folders := [(place, spoiledPlan)]
    stores := [(Settings.recordPath {} place, { changes := [approvedChange] })] }

set_option maxRecDepth 100000 in
theorem taskGraph_spoiledPlan (place : Path) :
    (ChangeFolder.mk place spoiledPlan).taskGraph = .error (.failure (.tasks .noTasks)) := by
  have text : (ChangeFolder.mk place spoiledPlan).read .tasks = .ok "done" := by
    rfl
  have read : (TaskGraph.read "done").graph = .error (.tasks .noTasks) := by
    decide +kernel
  unfold ChangeFolder.taskGraph
  rw [text]
  change (TaskGraph.read "done").graph.mapError Stop.ofTaskList = _
  rw [read]
  rfl

/-- An implementer that cannot be reached is asked three times. -/
theorem run_refusing (folder : ChangeFolder) (prompt : String) :
    ∃ last, (Lifecycle.implementCall (implementingBy refusing) folder
        ([leastTask].map Lifecycle.taskLine) prompt).run (implementingBy refusing) (fun _ _ => true)
      (approvedWorld refusing [taskNotice]) = (.error (.failure givenUp), last) := by
  let call := Lifecycle.implementCall (implementingBy refusing) folder
    ([leastTask].map Lifecycle.taskLine) prompt
  have attempts : (implementingBy refusing).policy.attempts = 3 := by
    change context.policy.attempts = 3
    decide
  have retries : ∃ after, call.Retries (implementingBy refusing) (fun _ _ => true)
      (approvedWorld refusing [taskNotice])
      [.invocation (some 1) "no connection", .invocation (some 1) "no connection"] after ∧
        ∃ last, call.Fails (implementingBy refusing).root (fun _ _ => true) after
          (.invocation (some 1) "no connection") last :=
    ⟨_, .more (.more .none (.failed rfl) rfl) (.failed rfl) rfl, _, .failed rfl⟩
  obtain ⟨after, earlier, last, fails⟩ := retries
  obtain ⟨ran, -⟩ := earlier.exhausted attempts fails
  rw [attempts] at ran
  exact ⟨last, ran⟩

theorem implement_refusing :
    (approvedProject.implement root change.id (meansOf refusing)).result =
      .error (.failure givenUp) := by
  let folder := (implementingBy refusing).folder (approvedWorld refusing [taskNotice])
  have valid : folder.IsValid := leastPlan_isValid _
  obtain ⟨prompt, prompted⟩ := valid.implementationPrompt (implementingBy refusing).changeId
    ([leastTask].map Lifecycle.taskLine)
  obtain ⟨last, asked⟩ := run_refusing folder prompt
  have handed : Lifecycle.implementTasks (implementingBy refusing)
      ([leastTask].map Lifecycle.taskLine) (approvedWorld refusing [taskNotice]) =
        (.error (.failure givenUp), last) := by
    unfold Lifecycle.implementTasks documents
    rw [Run.bind_of_ok (Run.look_apply _ _), Run.bind_of_ok (Run.ofFiles_ok_iff.2 ⟨prompted, rfl⟩)]
    exact Run.bind_of_error asked
  rw [implement_approvedBy ((implement_handsTask refusing).trans (Run.bind_of_error handed))]

/-- The answer is accepted and booked before the task list is looked at again. -/
theorem implement_spoiling :
    (approvedProject.implement root change.id (meansOf spoiling)).result =
      .error (.failure (.tasks .noTasks)) := by
  have ready : spoiling .implementer =
      .ready { answer := .ok (answerOver 5)
               edits := [.write (Artifact.file .tasks) (.text "done")] } [] := rfl
  obtain ⟨after, events, files, -, handed⟩ := implementTasks_ready ready rfl
  have storable : (answerOver 5).IsStorable := ⟨⟨"m", rfl⟩, by decide, by decide⟩
  obtain ⟨record, store, recorded⟩ := storable.recordUsage (implementingBy spoiling) "implement"
    { changes := [approvedChange] }
  have booked : Run.session
      (do let _ ← recordUsage (implementingBy spoiling) "implement" (answerOver 5))
      (after.world { changes := [approvedChange] } events) = (.ok (), after.world store events) :=
    Run.session_of_ok (Session.bind_of_ok recorded)
  rcases looked : Lifecycle.taskGraph (implementingBy spoiling) (after.world store events) with
    ⟨result, last⟩
  obtain ⟨unread, -⟩ := Lifecycle.taskGraph_cases looked
  have spoiled : (implementingBy spoiling).folder (after.world store events) =
      ⟨(implementingBy spoiling).place, spoiledPlan⟩ := congrArg (ChangeFolder.mk _) files
  rw [spoiled, taskGraph_spoiledPlan] at unread
  cases unread
  have finished : Lifecycle.finish (implementingBy spoiling) (after.world store events) =
      (.error (.failure (.tasks .noTasks)), last) := Run.bind_of_error looked
  have ran := (implement_handsTask spoiling).trans
    ((Run.bind_of_ok (handed.trans booked)).trans finished)
  rw [implement_approvedBy ran]

/-- **Failures are not accounted for**, whether no attempt is left, or the implementer or somebody
before it has left a text that is no task list: each of these runs ends with a failure and leaves
the log without a row. -/
theorem failures_are_unaccounted :
    let refused := approvedProject.implement root change.id (meansOf refusing)
    let spoiled := approvedProject.implement root change.id (meansOf spoiling)
    let taskless := spoiledProject.implement root change.id (meansOf refusing)
    (refused.result = .error (.failure givenUp) ∧ refused.project.log root change.id = [] ∧
        ¬approvedProject.AccountsFor root change.id refused (.failure givenUp)) ∧
      (spoiled.result = .error (.failure (.tasks .noTasks)) ∧
        spoiled.project.log root change.id = [] ∧
        ¬approvedProject.AccountsFor root change.id spoiled (.failure (.tasks .noTasks))) ∧
      taskless.result = .error (.failure (.tasks .noTasks)) ∧
        taskless.project.log root change.id = [] ∧
        ¬spoiledProject.AccountsFor root change.id taskless (.failure (.tasks .noTasks)) := by
  have known : approvedProject.change? root change.id = some approvedChange := rfl
  have stillKnown : spoiledProject.change? root change.id = some approvedChange := rfl
  have working : approvedChange.phase.IsImplemented := .inl rfl
  have given_up := Project.implement_failure known working implement_refusing
  have reread := Project.implement_failure known working implement_spoiling
  obtain ⟨-, unread⟩ :=
    Project.implement_stopped_or_logged (meansOf refusing) stillKnown working
  have taskless := unread _ (taskGraph_spoiledPlan _)
  have refused := Project.implement_failure stillKnown working taskless
  exact ⟨⟨implement_refusing, given_up.log, given_up.unaccounted _⟩,
    ⟨implement_spoiling, reread.log, reread.unaccounted _⟩,
    taskless, refused.log, refused.unaccounted _⟩

/-- An implementer that cannot be reached leaves the log as it was, and one that answers leaves the
row about progress. -/
theorem only_success_is_logged :
    let refused := approvedProject.implement root change.id (meansOf refusing)
    let answered := approvedProject.implement root change.id (meansOf (implementer (answerOver 5)))
    approvedProject.change? root change.id = some approvedChange ∧
      approvedChange.phase.IsImplemented ∧
      (refused.result = .error (.failure givenUp) ∧
        ¬approvedProject.AccountsFor root change.id refused (.failure givenUp) ∧
        approvedProject.KeepsAllButUsage root change.id refused) ∧
      (∃ status, answered.result = .ok status) ∧
      approvedProject.LogsProgress root change.id answered := by
  have known : approvedProject.change? root change.id = some approvedChange := rfl
  have working : approvedChange.phase.IsImplemented := .inl rfl
  obtain ⟨stopped, -⟩ :=
    Project.failed_implementation_is_unlogged (meansOf refusing) known working
  obtain ⟨unaccounted, keeps, -⟩ := stopped _ implement_refusing
  have storable : (answerOver 5).IsStorable := ⟨⟨"m", rfl⟩, by decide, by decide⟩
  obtain ⟨status, ended⟩ := implement_gives storable
  obtain ⟨-, logs, -⟩ :=
    Project.failed_implementation_is_unlogged (meansOf (implementer (answerOver 5))) known working
  exact ⟨known, working, ⟨implement_refusing, unaccounted, keeps (.inl ⟨_, _, _, rfl⟩)⟩,
    ⟨status, ended⟩, logs status ended⟩

end TwoTurns

end PlanCycle
