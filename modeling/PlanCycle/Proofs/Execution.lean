/-
Module: PlanCycle.Proofs.Execution
Purpose: How runs and sessions are taken apart, and what the frame of a step adds to its body.
Main exports:
  Run.bind_cases, Run.session_cases, World.shows, Session.bind_ok_iff, Session.modify_ok_iff,
  Session.advance_ok_iff, Session.addReview_ok_iff, recordUsage_ok_iff, Cycle.CanReport,
  Cycle.logFailure_cases, Cycle.runStep_cases, Lifecycle.keepProgress_of
-/
import PlanCycle.Cycle.Project
import PlanCycle.Proofs.DecimalReading

namespace PlanCycle

variable {α β : Type}

/-! ### Runs in sequence -/

namespace Run

@[simp] theorem pure_apply (value : α) (world : World) :
    (pure value : Run α) world = (.ok value, world) := rfl

@[simp] theorem done_apply (value : α) (world : World) :
    done value world = (.ok value, world) := rfl

@[simp] theorem stop_apply (reason : Stop) (world : World) :
    (stop reason : Run α) world = (.error reason, world) := rfl

@[simp] theorem fail_apply (failure : Failure) (world : World) :
    (fail failure : Run α) world = (.error (.failure failure), world) := rfl

@[simp] theorem look_apply (view : World → α) (world : World) :
    look view world = (.ok (view world), world) := rfl

@[simp] theorem ofExcept_apply (value : Except Stop α) (world : World) :
    ofExcept value world = (value, world) := by
  cases value <;> rfl

@[simp] theorem ofFiles_apply (value : Except FileFault α) (world : World) :
    ofFiles value world = (value.mapError Stop.ofFile, world) :=
  ofExcept_apply _ world

theorem ofFiles_ok_iff {given : Except FileFault α} {world last : World} {value : α} :
    ofFiles given world = (.ok value, last) ↔ given = .ok value ∧ last = world := by
  rw [ofFiles_apply]
  cases given with
  | error fault => exact ⟨nofun, nofun⟩
  | ok read =>
      constructor
      · intro same
        cases same
        exact ⟨rfl, rfl⟩
      · rintro ⟨⟨⟩, rfl⟩
        rfl

@[simp] theorem applyEdits_apply (edits : List FileEdit) (world : World) :
    applyEdits edits world = (.ok (), { world with files := world.files.edited edits }) := rfl

theorem bind_of_ok {first : Run α} {next : α → Run β} {world after : World} {value : α}
    (ran : first world = (.ok value, after)) : (first >>= next) world = next value after := by
  change andThen first next world = _
  unfold andThen
  rw [ran]

theorem bind_of_error {first : Run α} {next : α → Run β} {world after : World} {reason : Stop}
    (ran : first world = (.error reason, after)) :
    (first >>= next) world = (.error reason, after) := by
  change andThen first next world = _
  unfold andThen
  rw [ran]

/-- What goes on after the same end goes on the same. -/
theorem bind_congr {first other : Run α} {next : α → Run β} {world otherWorld : World}
    (same : first world = other otherWorld) :
    (first >>= next) world = (other >>= next) otherWorld := by
  change andThen first next world = andThen other next otherWorld
  unfold andThen
  rw [same]

/-- A sequence stops in its first part, or its second part goes on from where the first ends. -/
theorem bind_cases {first : Run α} {next : α → Run β} {world last : World}
    {result : Except Stop β} (ran : (first >>= next) world = (result, last)) :
    (∃ reason, first world = (.error reason, last) ∧ result = .error reason) ∨
      ∃ value after, first world = (.ok value, after) ∧ next value after = (result, last) := by
  rcases one : first world with ⟨value | reason, after⟩
  · rw [bind_of_error one] at ran
    cases ran
    exact .inl ⟨_, rfl, rfl⟩
  · rw [bind_of_ok one] at ran
    exact .inr ⟨_, _, rfl, ran⟩

/-- Both parts of a sequence that gives a value give one. -/
theorem bind_ok {first : Run α} {next : α → Run β} {world last : World} {value : β}
    (ran : (first >>= next) world = (.ok value, last)) :
    ∃ between after, first world = (.ok between, after) ∧
      next between after = (.ok value, last) := by
  rcases bind_cases ran with ⟨_, _, impossible⟩ | found
  · cases impossible
  · exact found

theorem session_of_ok {work : Session α} {world : World} {value : α} {store : Store}
    (worked : work world.store = .ok (value, store)) :
    session work world = (.ok value, { world with store }) := by
  simp only [session, Session.commit, worked]

theorem session_of_error {work : Session α} {world : World} {reason : Stop}
    (stopped : work world.store = .error reason) :
    session work world = (.error reason, world) := by
  simp only [session, Session.commit, stopped]

/-- A session keeps all of its work or nothing. -/
theorem session_cases {work : Session α} {world last : World} {result : Except Stop α}
    (ran : session work world = (result, last)) :
    (∃ reason, work world.store = .error reason ∧ result = .error reason ∧ last = world) ∨
      ∃ value store, work world.store = .ok (value, store) ∧ result = .ok value ∧
        last = { world with store } := by
  rcases worked : work world.store with reason | ⟨value, store⟩
  · rw [session_of_error worked] at ran
    cases ran
    exact .inl ⟨_, rfl, rfl, rfl⟩
  · rw [session_of_ok worked] at ran
    cases ran
    exact .inr ⟨_, _, rfl, rfl, rfl⟩

/-- Files are changed, or they stay as they are. -/
theorem changeFiles_cases {change : Folder → Except FileFault Folder} {world last : World}
    {result : Except Stop Unit} (ran : changeFiles change world = (result, last)) :
    (∃ files, change world.files = .ok files ∧ result = .ok () ∧ last = { world with files }) ∨
      ∃ fault, change world.files = .error fault ∧ result = .error (.ofFile fault) ∧
        last = world := by
  unfold changeFiles at ran
  split at ran
  · rename_i files changed
    cases ran
    exact .inl ⟨files, changed, rfl, rfl⟩
  · rename_i fault refused
    cases ran
    exact .inr ⟨fault, refused, rfl, rfl⟩

/-- An attempt gives the failure of a run as its value; only a breakdown stops it. -/
theorem attempt_cases {run : Run α} {world last : World} {result : Except Stop (Except Failure α)}
    (ran : attempt run world = (result, last)) :
    (∃ value, run world = (.ok value, last) ∧ result = .ok (.ok value)) ∨
      (∃ failure, run world = (.error (.failure failure), last) ∧
        result = .ok (.error failure)) ∨
      ∃ breakdown, run world = (.error (.breakdown breakdown), last) ∧
        result = .error (.breakdown breakdown) := by
  unfold attempt at ran
  split at ran
  · rename_i value after one
    cases ran
    exact .inl ⟨value, one, rfl⟩
  · rename_i failure after one
    cases ran
    exact .inr (.inl ⟨failure, one, rfl⟩)
  · rename_i breakdown after one
    cases ran
    exact .inr (.inr ⟨breakdown, one, rfl⟩)

end Run

/-- The world after a program was run.  What is left of the programs is given by the world. -/
theorem Run.runProcess_cases {spawn : ProcessResult → Spawn} {world last : World}
    {result : Except Stop ProcessResult} (ran : Run.runProcess spawn world = (result, last)) :
    ∃ ending, result = .ok ending ∧ last.store = world.store ∧ last.agents = world.agents ∧
      last.events = world.events ++ [.ran (spawn ending) ending] := by
  unfold Run.runProcess at ran
  split at ran
  · cases ran
    exact ⟨_, rfl, rfl, rfl, rfl⟩
  · cases ran
    exact ⟨_, rfl, rfl, rfl, rfl⟩

/-- The world after something was shown or done. -/
def World.shows (world : World) (events : List Event) : World :=
  { world with events := world.events ++ events }

@[simp] theorem World.shows_nil (world : World) : world.shows [] = world := by
  simp [World.shows]

@[simp] theorem World.shows_shows (world : World) (first second : List Event) :
    (world.shows first).shows second = world.shows (first ++ second) := by
  simp [World.shows]

@[simp] theorem World.store_shows (world : World) (events : List Event) :
    (world.shows events).store = world.store := rfl

@[simp] theorem World.files_shows (world : World) (events : List Event) :
    (world.shows events).files = world.files := rfl

@[simp] theorem World.agents_shows (world : World) (events : List Event) :
    (world.shows events).agents = world.agents := rfl

@[simp] theorem World.processes_shows (world : World) (events : List Event) :
    (world.shows events).processes = world.processes := rfl

@[simp] theorem World.events_shows (world : World) (events : List Event) :
    (world.shows events).events = world.events ++ events := rfl

namespace Run

theorem emit_apply (event : Event) (world : World) :
    emit event world = (.ok (), world.shows [event]) := rfl

@[simp] theorem say_apply (text : String) (world : World) :
    say text world = (.ok (), world.shows [.line text]) := rfl

theorem relay_of_taken {console : Console} {text : String} (taken : console.takes text = true)
    (world : World) : relay console text world = (.ok (), world.shows [.line text]) := by
  rw [relay, if_pos taken, say_apply]

theorem relay_of_refused {console : Console} {text : String} (refused : console.takes text = false)
    (world : World) : relay console text world = (.error (.breakdown .markup), world) := by
  rw [relay, if_neg (by simp [refused]), stop_apply]

@[simp] theorem warn_apply (text : String) (world : World) :
    warn text world = (.ok (), world.shows [.warning text]) := rfl

/-- A line with a text from elsewhere is shown, or the console refuses it. -/
theorem relay_cases {console : Console} {text : String} {world last : World}
    {result : Except Stop Unit} (ran : relay console text world = (result, last)) :
    (console.takes text = true ∧ result = .ok () ∧ last = world.shows [.line text]) ∨
      console.takes text = false ∧ result = .error (.breakdown .markup) ∧ last = world := by
  cases taken : console.takes text with
  | false =>
      rw [relay_of_refused taken] at ran
      cases ran
      exact .inr ⟨rfl, rfl, rfl⟩
  | true =>
      rw [relay_of_taken taken] at ran
      cases ran
      exact .inl ⟨rfl, rfl, rfl⟩

/-- Warnings are shown in order. -/
@[simp] theorem warnAll_apply (texts : List String) (world : World) :
    warnAll texts world = (.ok (), world.shows (texts.map .warning)) := by
  induction texts generalizing world with
  | nil => simp [warnAll]
  | cons text texts ih =>
      rw [warnAll, bind_of_ok (warn_apply text world), ih]
      simp

end Run

/-! ### Sessions in sequence -/

/-- The store with a record in the place of the one with its id. -/
def Store.withChange (store : Store) (change : Change) : Store :=
  { store with
    changes := store.changes.map fun known => if known.id = change.id then change else known }

namespace Session

theorem bind_of_ok {first : Session α} {next : α → Session β} {store after : Store} {value : α}
    (worked : first store = .ok (value, after)) : (first >>= next) store = next value after := by
  change andThen first next store = _
  unfold andThen
  rw [worked]

/-- A sequence of work is done if both parts of it are. -/
theorem bind_ok_iff {first : Session α} {next : α → Session β} {store last : Store} {value : β} :
    (first >>= next) store = .ok (value, last) ↔
      ∃ between after, first store = .ok (between, after) ∧
        next between after = .ok (value, last) := by
  constructor
  · intro worked
    rcases one : first store with reason | ⟨between, after⟩
    · change andThen first next store = _ at worked
      unfold andThen at worked
      rw [one] at worked
      cases worked
    · rw [bind_of_ok one] at worked
      exact ⟨_, _, rfl, worked⟩
  · rintro ⟨between, after, one, two⟩
    rw [bind_of_ok one, two]

@[simp] theorem done_ok_iff {given value : α} {store last : Store} :
    done given store = .ok (value, last) ↔ given = value ∧ store = last := by
  simp [done]

@[simp] theorem pure_ok_iff {given value : α} {store last : Store} :
    (pure given : Session α) store = .ok (value, last) ↔ given = value ∧ store = last := by
  change Except.ok (given, store) = _ ↔ _
  simp

theorem load_ok_iff {id : String} {store last : Store} {change : Change} :
    load id store = .ok (change, last) ↔ store.find? id = some change ∧ last = store := by
  unfold load
  cases found : store.find? id with
  | none => simp
  | some known => simp [eq_comm]

theorem requireFit_ok_iff {numbers : List Int} {store last : Store} {value : Unit} :
    requireFit numbers store = .ok (value, last) ↔ fits numbers = true ∧ last = store := by
  unfold requireFit
  split
  · rename_i fit
    simp [done, fit, eq_comm]
  · rename_i unfit
    simp [breakDown, unfit]

theorem save_ok_iff {change : Change} {store last : Store} {value : Unit} :
    save change store = .ok (value, last) ↔
      fits [change.iteration] = true ∧ last = store.withChange change := by
  unfold save
  rw [bind_ok_iff]
  constructor
  · rintro ⟨_, _, fit, altered⟩
    obtain ⟨small, rfl⟩ := requireFit_ok_iff.1 fit
    cases altered
    exact ⟨small, rfl⟩
  · rintro ⟨fit, rfl⟩
    exact ⟨(), store, requireFit_ok_iff.2 ⟨fit, rfl⟩, rfl⟩

theorem modify_ok_iff {id : String} {edit : Change → Change} {store last : Store}
    {after : Change} :
    modify id edit store = .ok (after, last) ↔
      ∃ change, store.find? id = some change ∧ after = edit change ∧
        fits [after.iteration] = true ∧ last = store.withChange after := by
  unfold modify
  simp only [bind_ok_iff, load_ok_iff, save_ok_iff, pure_ok_iff]
  constructor
  · rintro ⟨change, _, ⟨found, rfl⟩, _, _, ⟨fit, rfl⟩, rfl, rfl⟩
    exact ⟨change, found, rfl, fit, rfl⟩
  · rintro ⟨change, found, rfl, fit, rfl⟩
    exact ⟨change, store, ⟨found, rfl⟩, (), _, ⟨fit, rfl⟩, rfl, rfl⟩

theorem advance_ok_iff {id : String} {step : Change → Except Failure Change}
    {store last : Store} {after : Change} :
    advance id step store = .ok (after, last) ↔
      ∃ change, store.find? id = some change ∧ step change = .ok after ∧
        fits [after.iteration] = true ∧ last = store.withChange after := by
  unfold advance
  simp only [bind_ok_iff, load_ok_iff]
  constructor
  · rintro ⟨change, _, ⟨found, rfl⟩, advanced⟩
    rcases stepped : step change with failure | moved
    · rw [stepped] at advanced
      cases advanced
    · rw [stepped] at advanced
      simp only [bind_ok_iff, save_ok_iff, pure_ok_iff] at advanced
      obtain ⟨_, _, ⟨fit, rfl⟩, rfl, rfl⟩ := advanced
      exact ⟨change, found, stepped, fit, rfl⟩
  · rintro ⟨change, found, stepped, fit, rfl⟩
    refine ⟨change, store, ⟨found, rfl⟩, ?_⟩
    rw [stepped]
    simp only [bind_ok_iff, save_ok_iff, pure_ok_iff]
    exact ⟨(), _, ⟨fit, rfl⟩, trivial, rfl⟩

theorem addReview_ok_iff {entry : ReviewEntry} {store last : Store} {row : Nat} :
    addReview entry store = .ok (row, last) ↔
      (∃ change, store.find? entry.changeId = some change) ∧ fits [entry.iteration] = true ∧
        row = last.reviews.length ∧
        last = { store with reviews := store.reviews ++ [entry] } := by
  unfold addReview
  simp only [bind_ok_iff, load_ok_iff, requireFit_ok_iff]
  constructor
  · rintro ⟨change, _, ⟨found, rfl⟩, _, _, ⟨fit, rfl⟩, _, _, altered, looked⟩
    cases altered
    cases looked
    exact ⟨⟨change, found⟩, fit, rfl, rfl⟩
  · rintro ⟨⟨change, found⟩, fit, rfl, rfl⟩
    exact ⟨change, store, ⟨found, rfl⟩, (), store, ⟨fit, rfl⟩, (), _, rfl, rfl⟩

/-- An event that took no measured time can always be logged. -/
theorem logEvent_ok_iff {entry : LogEntry} {store last : Store} {row : Nat}
    (untimed : entry.durationMs = none) :
    logEvent entry store = .ok (row, last) ↔
      row = last.log.length ∧
        last = { store with
          log := store.log ++ [{ entry with
            details := if entry.details.isPresent then entry.details else .object [] }] } := by
  unfold logEvent
  simp only [bind_ok_iff, requireFit_ok_iff, untimed]
  constructor
  · rintro ⟨_, _, ⟨_, rfl⟩, _, _, altered, looked⟩
    cases altered
    cases looked
    exact ⟨rfl, rfl⟩
  · rintro ⟨rfl, rfl⟩
    exact ⟨(), store, ⟨rfl, rfl⟩, (), _, rfl, rfl⟩

end Session

@[simp] theorem UsageEntry.changeId_ofRecord (id : String) (record : UsageRecord) :
    (ofRecord id record).changeId = id := rfl

/-- An entry says about the use of an agent what it was made from, but for the zone of the time. -/
@[simp] theorem UsageEntry.usage_ofRecord (id : String) (record : UsageRecord) :
    (ofRecord id record).usage = record.asRead := by
  simp [usage, ofRecord, UsageRecord.asRead]

/-- What is kept about the use of an agent. -/
def AgentAnswer.record? (answer : AgentAnswer) (context : CycleContext) (step : String) :
    Option UsageRecord :=
  answer.usage?.map (.ofUsage context.prices step)

/-- Whether the numbers of a usage record fit. -/
def UsageRecord.Fits (record : UsageRecord) : Prop :=
  Session.fits [record.tokensIn, record.tokensOut, record.duration] = true

theorem recordUsage_ok_iff {context : CycleContext} {step : String} {answer : AgentAnswer}
    {store last : Store} {record : UsageRecord} :
    recordUsage context step answer store = .ok (record, last) ↔
      answer.record? context step = some record ∧ record.Fits ∧
        last = { store with usage := store.usage ++ [.ofRecord context.changeId record] } := by
  unfold recordUsage AgentAnswer.record? UsageRecord.Fits
  cases answer.usage? with
  | none => simp [Session.breakDown]
  | some usage =>
      simp only [Session.record, Session.addUsage, Session.bind_ok_iff,
        Session.requireFit_ok_iff, Option.map_some, Option.some.injEq]
      constructor
      · rintro ⟨_, _, ⟨fit, rfl⟩, _, _, altered, same⟩
        cases altered
        obtain ⟨rfl, rfl⟩ := Session.pure_ok_iff.1 same
        exact ⟨rfl, fit, rfl⟩
      · rintro ⟨rfl, fit, rfl⟩
        exact ⟨(), store, ⟨fit, rfl⟩, (), _, rfl, rfl⟩

theorem requireWhole_ok_iff {answer : AgentAnswer} {store last : Store} {value : Unit} :
    requireWhole answer store = .ok (value, last) ↔ answer.isWhole = true ∧ last = store := by
  unfold requireWhole
  split
  · rename_i whole
    simp [Session.done, whole, eq_comm]
  · rename_i halved
    simp [Session.breakDown, halved]

/-! ### Steps in their log -/

/-- The store after an event was added to the execution log. -/
def Store.logged (store : Store) (entry : LogEntry) : Store :=
  { store with
    log := store.log ++ [{ entry with
      details := if entry.details.isPresent then entry.details else .object [] }] }

@[simp] theorem Store.find?_logged (store : Store) (entry : LogEntry) (id : String) :
    (store.logged entry).find? id = store.find? id := rfl

@[simp] theorem Store.reviews_logged (store : Store) (entry : LogEntry) :
    (store.logged entry).reviews = store.reviews := rfl

/-- The world after an event was added to the execution log. -/
def World.logs (world : World) (entry : LogEntry) : World :=
  { world with store := world.store.logged entry }

@[simp] theorem World.store_logs (world : World) (entry : LogEntry) :
    (world.logs entry).store = world.store.logged entry := rfl

@[simp] theorem World.files_logs (world : World) (entry : LogEntry) :
    (world.logs entry).files = world.files := rfl

@[simp] theorem World.agents_logs (world : World) (entry : LogEntry) :
    (world.logs entry).agents = world.agents := rfl

@[simp] theorem World.processes_logs (world : World) (entry : LogEntry) :
    (world.logs entry).processes = world.processes := rfl

@[simp] theorem World.events_logs (world : World) (entry : LogEntry) :
    (world.logs entry).events = world.events := rfl

@[simp] theorem CycleContext.folder_logs (context : CycleContext) (world : World)
    (entry : LogEntry) : context.folder (world.logs entry) = context.folder world := rfl

@[simp] theorem CycleContext.folder_shows (context : CycleContext) (world : World)
    (events : List Event) : context.folder (world.shows events) = context.folder world := rfl

/-- Whether a text holds no marks. -/
def IsUnmarked (text : String) : Prop :=
  '[' ∉ text.toList

namespace IsUnmarked

theorem append {first second : String} (here : IsUnmarked first) (there : IsUnmarked second) :
    IsUnmarked (first ++ second) := by
  intro member
  rw [String.toList_append, List.mem_append] at member
  exact member.elim here there

/-- A text that is given literally is taken apart by this into its letters. -/
theorem spelled {letters : List Char} (each : '[' ∉ letters) :
    IsUnmarked (String.ofList letters) := by
  rwa [IsUnmarked, String.toList_ofList]

end IsUnmarked

/-- Whether a console makes sense of texts without marks, from the opening mark of a style to its
closing mark. -/
def Console.TakesStyled (console : Console) : Prop :=
  ∀ style ∈ ["red", "yellow"], ∀ text, IsUnmarked text →
    console.takes ("[" ++ style ++ "]" ++ text ++ "[/" ++ style ++ "]") = true

namespace Cycle

/-- What is logged about a step. -/
def stepEvent (context : CycleContext) (step event : String) (message : Option String := none)
    (details : Json := .object []) : LogEntry :=
  { changeId := context.changeId, step, event, message, details }

@[simp] theorem logStep_apply (context : CycleContext) (step event : String)
    (message : Option String) (details : Json) (world : World) :
    logStep context step event message details world =
      (.ok (), world.logs (stepEvent context step event message details)) := by
  have untimed : (stepEvent context step event message details).durationMs = none := rfl
  exact Run.bind_of_ok (Run.session_of_ok ((Session.logEvent_ok_iff untimed).2 ⟨rfl, rfl⟩))

/-- Whether the failure of a step can be shown and logged. -/
structure CanReport (context : CycleContext) (step : String) (failure : Failure) : Prop where
  taken : context.console.takes (failureLine step failure) = true
  whole : failure.isWhole = true

/-- A failure whose wording has an encoding can be reported where styles can be shown if neither
its step nor its wording holds marks. -/
theorem canReport_of_unmarked {context : CycleContext} {step : String} {failure : Failure}
    (styled : context.console.TakesStyled) (name : IsUnmarked step)
    (message : IsUnmarked failure.message) (whole : failure.isWhole = true) :
    CanReport context step failure := by
  refine ⟨?_, whole⟩
  have line : failureLine step failure =
      "[" ++ "red" ++ "]" ++ ("✗ " ++ step ++ ": " ++ failure.message) ++ "[/" ++ "red" ++ "]" := by
    simp only [failureLine, ← String.toList_inj, String.toList_append, List.append_assoc]
    rfl
  rw [line]
  refine styled "red" (by decide) _ ?_
  exact ((IsUnmarked.append (.spelled (by decide)) name).append (.spelled (by decide))).append
    message

/-- What is logged about the failure of a step. -/
def failureEvent (context : CycleContext) (step : String) (failure : Failure) : LogEntry :=
  stepEvent context step "failed" failure.message (.object [("kind", .string failure.kind.word)])

/-- The world after the failure of a step was shown and logged. -/
def afterFailure (context : CycleContext) (step : String) (failure : Failure) (world : World) :
    World :=
  (world.shows [.line (failureLine step failure)]).logs (failureEvent context step failure)

theorem logFailure_of_canReport {context : CycleContext} {step : String} {failure : Failure}
    (can : CanReport context step failure) (world : World) :
    logFailure context step failure world = (.ok (), afterFailure context step failure world) := by
  unfold logFailure
  rw [Run.bind_of_ok (Run.relay_of_taken can.taken world), if_pos can.whole, logStep_apply]
  rfl

/-- Whether events only show lines. -/
def AreLines (events : List Event) : Prop :=
  ∀ event ∈ events, ∃ text, event = .line text

theorem areLines_nil : AreLines [] := by
  simp [AreLines]

theorem areLines_singleton (text : String) : AreLines [.line text] := by
  simp [AreLines]

/-- A failure is shown and logged, or what it says breaks the run down before it is logged. -/
theorem logFailure_cases {context : CycleContext} {step : String} {failure : Failure}
    {world last : World} {result : Except Stop Unit}
    (ran : logFailure context step failure world = (result, last)) :
    (CanReport context step failure ∧ result = .ok () ∧
        last = afterFailure context step failure world) ∨
      ¬CanReport context step failure ∧ ∃ breakdown shown,
        result = .error (.breakdown breakdown) ∧ last = world.shows shown ∧ AreLines shown := by
  cases taken : context.console.takes (failureLine step failure) with
  | false =>
      unfold logFailure at ran
      rw [Run.bind_of_error (Run.relay_of_refused taken world)] at ran
      cases ran
      refine .inr ⟨fun can => ?_, .markup, [], rfl, (World.shows_nil world).symm, areLines_nil⟩
      rw [can.taken] at taken
      cases taken
  | true =>
      cases whole : failure.isWhole with
      | true =>
          rw [logFailure_of_canReport ⟨taken, whole⟩] at ran
          cases ran
          exact .inl ⟨⟨taken, whole⟩, rfl, rfl⟩
      | false =>
          unfold logFailure at ran
          rw [Run.bind_of_ok (Run.relay_of_taken taken world), if_neg (by simp [whole]),
            Run.stop_apply] at ran
          cases ran
          refine .inr ⟨fun can => ?_, .unencodable, _, rfl, rfl, areLines_singleton _⟩
          rw [can.whole] at whole
          cases whole

section
variable {context : CycleContext} {name : String} {body : Run (StepEnd α)} {world after : World}

theorem runStep_of_ok {ending : StepEnd α}
    (ran : body (world.logs (stepEvent context name "started")) = (.ok ending, after)) :
    runStep context name body world =
      (.ok ending, after.logs (stepEvent context name "completed" ending.note?)) := by
  have tried : Run.attempt body (world.logs (stepEvent context name "started")) =
      (.ok (.ok ending), after) := by
    rw [Run.attempt, ran]
  unfold runStep
  rw [Run.bind_of_ok (logStep_apply _ _ _ _ _ world), Run.bind_of_ok tried]
  dsimp only
  rw [Run.bind_of_ok (logStep_apply _ _ _ _ _ after)]
  rfl

/-- A failure that can be reported ends the cycle with an outcome of its own. -/
theorem runStep_of_failure {failure : Failure} (can : CanReport context name failure)
    (ran : body (world.logs (stepEvent context name "started")) =
      (.error (.failure failure), after)) :
    runStep context name body world =
      (.ok (.ended (.ofFailure name failure)), afterFailure context name failure after) := by
  have tried : Run.attempt body (world.logs (stepEvent context name "started")) =
      (.ok (.error failure), after) := by
    rw [Run.attempt, ran]
  unfold runStep
  rw [Run.bind_of_ok (logStep_apply _ _ _ _ _ world), Run.bind_of_ok tried]
  dsimp only
  rw [Run.bind_of_ok (logFailure_of_canReport can after)]
  rfl

/-- A failure that cannot be reported breaks the step down. -/
theorem runStep_of_unreported {failure : Failure} (cannot : ¬CanReport context name failure)
    (ran : body (world.logs (stepEvent context name "started")) =
      (.error (.failure failure), after)) :
    ∃ breakdown shown, AreLines shown ∧
      runStep context name body world = (.error (.breakdown breakdown), after.shows shown) := by
  have tried : Run.attempt body (world.logs (stepEvent context name "started")) =
      (.ok (.error failure), after) := by
    rw [Run.attempt, ran]
  rcases logged : logFailure context name failure after with ⟨result, last⟩
  rcases logFailure_cases logged with ⟨can, -⟩ | ⟨-, breakdown, shown, rfl, rfl, lines⟩
  · exact absurd can cannot
  · refine ⟨breakdown, shown, lines, ?_⟩
    unfold runStep
    rw [Run.bind_of_ok (logStep_apply _ _ _ _ _ world), Run.bind_of_ok tried]
    exact Run.bind_of_error logged

theorem runStep_of_breakdown {breakdown : Breakdown}
    (ran : body (world.logs (stepEvent context name "started")) =
      (.error (.breakdown breakdown), after)) :
    runStep context name body world = (.error (.breakdown breakdown), after) := by
  have tried : Run.attempt body (world.logs (stepEvent context name "started")) =
      (.error (.breakdown breakdown), after) := by
    rw [Run.attempt, ran]
  unfold runStep
  rw [Run.bind_of_ok (logStep_apply _ _ _ _ _ world), Run.bind_of_error tried]

/-- A step ends in one of three ways, with what its body left before it.  It breaks down with its
body, or with the report of a failure of its body. -/
theorem runStep_cases {last : World} {result : Except Stop (StepEnd α)}
    (ran : runStep context name body world = (result, last)) :
    (∃ ending after, body (world.logs (stepEvent context name "started")) = (.ok ending, after) ∧
        result = .ok ending ∧
        last = after.logs (stepEvent context name "completed" ending.note?)) ∨
      (∃ failure after, body (world.logs (stepEvent context name "started")) =
          (.error (.failure failure), after) ∧ CanReport context name failure ∧
        result = .ok (.ended (.ofFailure name failure)) ∧
        last = afterFailure context name failure after) ∨
      ∃ breakdown reason after shown, body (world.logs (stepEvent context name "started")) =
          (.error reason, after) ∧ result = .error (.breakdown breakdown) ∧
        last = after.shows shown ∧ AreLines shown := by
  rcases one : body (world.logs (stepEvent context name "started")) with ⟨outcome, after⟩
  rcases outcome with (failure | breakdown) | ending
  · by_cases can : CanReport context name failure
    · rw [runStep_of_failure can one] at ran
      cases ran
      exact .inr (.inl ⟨_, _, rfl, can, rfl, rfl⟩)
    · obtain ⟨breakdown, shown, lines, broken⟩ := runStep_of_unreported can one
      rw [broken] at ran
      cases ran
      exact .inr (.inr ⟨_, _, _, _, rfl, rfl, rfl, lines⟩)
  · rw [runStep_of_breakdown one] at ran
    cases ran
    exact .inr (.inr ⟨_, _, _, [], rfl, rfl, (World.shows_nil _).symm, areLines_nil⟩)
  · rw [runStep_of_ok one] at ran
    cases ran
    exact .inl ⟨_, _, rfl, rfl, rfl⟩

end

end Cycle

/-! ### How progress is kept -/

/-- What is kept as done last of an implementation. -/
def TaskGraph.note (graph : TaskGraph) : String :=
  "implementation " ++ toString graph.progress.1 ++ "/" ++ toString graph.progress.2 ++
    " tasks done"

namespace Lifecycle

/-- Notes how far an implementation is. -/
def noteProgress (id : String) (graph : TaskGraph) : Session Unit := do
  let _ ← Session.modify id fun change => { change with lastAction := some graph.note }
  let _ ← Session.logEvent
    { changeId := id, step := "implement", event := "completed"
      details := .object [("done", .int graph.progress.1), ("total", .int graph.progress.2)] }

/-- Completes an implementation of which all tasks are done, and notes how far it is. -/
def completeProgress (id : String) (graph : TaskGraph) : Session Unit := do
  if graph.allDone then
    let _ ← Session.advance id (·.moveTo .complete)
  noteProgress id graph

/-- An implementation of an approved plan begins before it is completed. -/
theorem keepProgress_eq (id : String) (graph : TaskGraph) :
    keepProgress id graph = (do
      let change ← Session.load id
      if change.phase = .challenged then do
        let _ ← Session.advance id (·.moveTo .implementing)
        completeProgress id graph
      else completeProgress id graph) := by
  rfl

/-- What sessions in sequence keep, progress keeps too if it is kept by the moves and the note. -/
theorem keepProgress_of (Keeps : (α : Type) → Session α → Prop) {id : String} {graph : TaskGraph}
    (bind : ∀ {α β : Type} {first : Session α} {next : α → Session β}, Keeps α first →
      (∀ value, Keeps β (next value)) → Keeps β (first >>= next))
    (load : Keeps Change (Session.load id))
    (move : ∀ target, target = .implementing ∨ target = .complete →
      Keeps Change (Session.advance id (·.moveTo target)))
    (note : Keeps Unit (noteProgress id graph)) : Keeps Unit (keepProgress id graph) := by
  have completed : Keeps Unit (completeProgress id graph) := by
    unfold completeProgress
    split
    · exact bind (move .complete (.inr rfl)) fun _ => note
    · exact note
  rw [keepProgress_eq]
  refine bind load fun change => ?_
  split
  · exact bind (move .implementing (.inl rfl)) fun _ => completed
  · exact completed

end Lifecycle

end PlanCycle
