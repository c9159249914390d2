/-
Module: PlanCycle.Proofs.Conduct
Purpose: What the work of a step leaves alone and whom it asks: it writes nothing into the execution
  log, asks agents only what may be asked, and gives a change no conversation but the one that the
  author of its proposal named.
Main exports:
  Store.conversation?, AgentCall.StartsAnew, World.Converses, World.Works, Run.Works, Cycle.Frames,
  Cycle.generateStep_frames, Cycle.validateStep_frames, Cycle.challengeStep_frames, Cycle.TakesUp,
  Cycle.reviseStep_frames
-/
import PlanCycle.Proofs.ValidatingCycle

namespace PlanCycle

variable {α β : Type}

/-! ### Conversations on record -/

namespace Store

/-- The conversation in which the plan of a change is written, if it is on record. -/
def conversation? (store : Store) (id : String) : Option String :=
  (store.find? id).bind (·.sessionId)

/-- A record with the conversation of the old one leaves all conversations as they are. -/
theorem conversation?_withChange {store : Store} {old change : Change}
    (found : store.find? change.id = some old) (same : change.sessionId = old.sessionId)
    (id : String) : (store.withChange change).conversation? id = store.conversation? id := by
  unfold conversation?
  rw [find?_withChange]
  cases known : store.find? id with
  | none => rfl
  | some entry =>
      by_cases named : entry.id = change.id
      · have ids : change.id = id := named.symm.trans (id_of_find? known)
        rw [ids, known] at found
        cases found
        simp [named, same]
      · simp [named]

end Store

/-! ### Questions in a trace -/

/-- Whether a call asks for a revision of the plan. -/
def AgentCall.IsRevision (call : AgentCall) : Prop :=
  ∃ number : Nat, call.step = "revise:" ++ toString number

/-- Whether a call takes up no conversation and asks for no revision. -/
structure AgentCall.StartsAnew (call : AgentCall) : Prop where
  resume : call.resume = .none
  other : ¬call.IsRevision

/-- A step that begins with another letter is no revision. -/
theorem AgentCall.StartsAnew.of_head {call : AgentCall} {c : Char} (resume : call.resume = .none)
    (head : call.step.toList.head? = some c) (other : c ≠ 'r') : call.StartsAnew := by
  refine ⟨resume, ?_⟩
  rintro ⟨number, step⟩
  rw [step] at head
  simp at head
  exact other head.symm

namespace Event

/-- Whether agents are asked only what may be asked after the events that came before. -/
def AsksAsAllowed (may : List Event → AgentCall → Prop) (before added : List Event) : Prop :=
  ∀ earlier call files later, added = earlier ++ .asked call files :: later →
    may (before ++ earlier) call

/-- The conversation that an accepted proposal was written in, as its author named it. -/
def NamesConversation (events : List Event) (conversation : String) : Prop :=
  ∃ answer, (Role.generator, "generate:" ++ Artifact.proposal.name, answer) ∈ acceptedCalls events ∧
    answer.sessionId.isPresent = true ∧ Cycle.sessionText answer.sessionId = .ok conversation

variable {may other : List Event → AgentCall → Prop} {before added more : List Event}

theorem AsksAsAllowed.of_unasked (unasked : ∀ call files, .asked call files ∉ added) :
    AsksAsAllowed may before added := by
  rintro earlier call files later rfl
  exact absurd (List.mem_append_right _ List.mem_cons_self) (unasked call files)

theorem AsksAsAllowed.append (one : AsksAsAllowed may before added)
    (two : AsksAsAllowed may (before ++ added) more) :
    AsksAsAllowed may before (added ++ more) := by
  intro earlier call files later split
  rcases List.append_eq_append_iff.mp split with ⟨rest, rfl, second⟩ | ⟨rest, rfl, second⟩
  · rw [← List.append_assoc]
    exact two rest call files later second
  · cases rest with
    | nil => simpa using two [] call files later second.symm
    | cons event rest =>
        obtain ⟨rfl, -⟩ := List.cons.inj second
        exact one earlier call files rest rfl

theorem AsksAsAllowed.mono (asks : AsksAsAllowed may before added)
    (enough : ∀ earlier call, may earlier call → other earlier call) :
    AsksAsAllowed other before added :=
  fun earlier call files later split => enough _ _ (asks earlier call files later split)

/-- The questions of one call are that call, after attempts at it. -/
theorem AsksAsAllowed.of_attempts {call : AgentCall} {files : Folder} {tried ending : List Event}
    (attempts : ∀ event ∈ tried, call.IsAttempt event)
    (ended : ∀ asked files, .asked asked files ∉ ending)
    (allowed : ∀ meanwhile, (∀ event ∈ meanwhile, call.IsAttempt event) →
      may (before ++ meanwhile) call) :
    AsksAsAllowed may before (.asked call files :: tried ++ ending) := by
  refine .append ?_ (.of_unasked ended)
  intro earlier asked files' later split
  have member : ∀ event ∈ earlier ++ .asked asked files' :: later, call.IsAttempt event := by
    rw [← split]
    intro event member
    rcases List.mem_cons.mp member with rfl | among
    · exact rfl
    · exact attempts event among
  obtain rfl : asked = call := member _ (List.mem_append_right _ List.mem_cons_self)
  exact allowed earlier fun event among => member event (List.mem_append_left _ among)

theorem NamesConversation.append {conversation : String}
    (names : NamesConversation added conversation) (more : List Event) :
    NamesConversation (added ++ more) conversation := by
  obtain ⟨answer, among, present, text⟩ := names
  exact ⟨answer, by simp [among], present, text⟩

end Event

/-! ### Work and conversation -/

/-- Agents were asked only what may be asked, and the conversation of a change is what it was, or
the author of an accepted proposal has named it. -/
structure World.Converses (id : String) (may : List Event → AgentCall → Prop)
    (before after : World) : Prop where
  traced : ∃ added, after.events = before.events ++ added ∧
    Event.AsksAsAllowed may before.events added
  known : after.store.conversation? id = before.store.conversation? id ∨
    ∃ conversation, after.store.conversation? id = some conversation ∧
      Event.NamesConversation after.events conversation

/-- Nothing was logged, and all that was asked and all that is known of the conversation came about
as it may. -/
structure World.Works (id : String) (may : List Event → AgentCall → Prop) (before after : World) :
    Prop where
  log : after.store.log = before.store.log
  converses : before.Converses id may after

/-- Whether a run works so, however it ends. -/
def Run.Works (id : String) (may : List Event → AgentCall → Prop) (run : Run α) : Prop :=
  ∀ ⦃world result last⦄, run world = (result, last) → world.Works id may last

/-- The sessions after which the log and the conversation of a change are what they were. -/
def Session.IsSilent (id : String) (work : Session α) : Prop :=
  ∀ ⦃store value last⦄, work store = .ok (value, last) →
    last.log = store.log ∧ last.conversation? id = store.conversation? id

section
variable {id : String} {may other : List Event → AgentCall → Prop}

theorem World.Converses.refl (world : World) : world.Converses id may world :=
  ⟨⟨[], by simp, .of_unasked (by simp)⟩, .inl rfl⟩

theorem World.Converses.trans {first middle last : World} (earlier : first.Converses id may middle)
    (later : middle.Converses id may last) : first.Converses id may last := by
  obtain ⟨⟨added, events, asks⟩, known⟩ := earlier
  obtain ⟨⟨more, moreEvents, moreAsks⟩, moreKnown⟩ := later
  rw [events] at moreAsks
  refine ⟨⟨added ++ more, by rw [moreEvents, events, List.append_assoc], asks.append moreAsks⟩, ?_⟩
  rcases moreKnown with same | named
  · rw [same]
    rcases known with known | ⟨conversation, named, names⟩
    · exact .inl known
    · rw [moreEvents]
      exact .inr ⟨conversation, named, names.append more⟩
  · exact .inr named

theorem World.Converses.mono {before after : World} (converses : before.Converses id may after)
    (enough : ∀ earlier call, may earlier call → other earlier call) :
    before.Converses id other after := by
  obtain ⟨⟨added, events, asks⟩, known⟩ := converses
  exact ⟨⟨added, events, asks.mono enough⟩, known⟩

/-- Where the records are kept and nobody is asked, nothing has to be allowed. -/
theorem World.Converses.of_unasked {before after : World} {added : List Event}
    (store : after.store.conversation? id = before.store.conversation? id)
    (events : after.events = before.events ++ added)
    (unasked : ∀ call files, .asked call files ∉ added) : before.Converses id may after :=
  ⟨⟨added, events, .of_unasked unasked⟩, .inl store⟩

theorem World.Converses.logs {world : World} {entry : LogEntry} :
    world.Converses id may (world.logs entry) :=
  .of_unasked rfl (List.append_nil _).symm (by simp)

theorem World.Converses.afterFailure {context : CycleContext} {step : String} {failure : Failure}
    {world : World} :
    world.Converses id may (Cycle.afterFailure context step failure world) :=
  .of_unasked rfl rfl (by simp [Cycle.failureLine])

theorem World.Converses.lines {world : World} {events : List Event}
    (lines : Cycle.AreLines events) : world.Converses id may (world.shows events) := by
  refine .of_unasked rfl rfl fun call files member => ?_
  obtain ⟨text, impossible⟩ := lines _ member
  cases impossible

theorem World.Works.refl (world : World) : world.Works id may world :=
  ⟨rfl, .refl world⟩

theorem World.Works.trans {first middle last : World} (earlier : first.Works id may middle)
    (later : middle.Works id may last) : first.Works id may last :=
  ⟨later.log.trans earlier.log, earlier.converses.trans later.converses⟩

theorem World.Works.of_unchanged {before after : World} (same : before.Unchanged after) :
    before.Works id may after := by
  obtain ⟨-, store, shown, events, shows⟩ := same
  refine ⟨by rw [store], .of_unasked (by rw [store]) events fun call files member => ?_⟩
  exact shows _ member

/-- A call that may be made whatever attempts at it came before works as it may. -/
theorem AgentCall.works_run {call : AgentCall} {context : CycleContext}
    {accept : Folder → AgentAnswer → Bool} {world last : World} {result : Except Stop AgentAnswer}
    (ran : call.run context accept world = (result, last))
    (allowed : ∀ meanwhile, (∀ event ∈ meanwhile, call.IsAttempt event) →
      may (world.events ++ meanwhile) call) : world.Works id may last := by
  rcases AgentCall.run_leaves ran with ⟨-, rfl⟩ | ⟨⟨store, tried, attempts, events⟩, -⟩
  · exact .refl _
  · refine ⟨by rw [store], ⟨_, by rw [events, List.append_assoc],
      .of_attempts attempts ?_ allowed⟩, .inl (by rw [store])⟩
    cases result with
    | ok answer => simp [AgentCall.ending]
    | error reason => simp [AgentCall.ending]

namespace Session.IsSilent

theorem pure (value : α) : IsSilent id (pure value : Session α) := by
  intro store given last worked
  obtain ⟨-, rfl⟩ := Session.pure_ok_iff.1 worked
  exact ⟨rfl, rfl⟩

theorem bind {first : Session α} {next : α → Session β} (one : IsSilent id first)
    (two : ∀ value, IsSilent id (next value)) : IsSilent id (first >>= next) := by
  intro store value last worked
  obtain ⟨between, after, begun, ended⟩ := Session.bind_ok_iff.1 worked
  obtain ⟨log, known⟩ := two between ended
  exact ⟨log.trans (one begun).1, known.trans (one begun).2⟩

theorem load (other : String) : IsSilent id (Session.load other) := by
  intro store change last worked
  obtain ⟨-, rfl⟩ := Session.load_ok_iff.1 worked
  exact ⟨rfl, rfl⟩

theorem modify {other : String} {edit : Change → Change}
    (sameId : ∀ change, (edit change).id = change.id)
    (same : ∀ change, (edit change).sessionId = change.sessionId) :
    IsSilent id (Session.modify other edit) := by
  intro store after last worked
  obtain ⟨change, found, rfl, -, rfl⟩ := Session.modify_ok_iff.1 worked
  refine ⟨rfl, Store.conversation?_withChange ?_ (same change) id⟩
  rw [sameId, Store.id_of_find? found]
  exact found

theorem advance {other : String} {step : Change → Except Failure Change}
    (same : ∀ change moved, step change = .ok moved →
      moved.id = change.id ∧ moved.sessionId = change.sessionId) :
    IsSilent id (Session.advance other step) := by
  intro store after last worked
  obtain ⟨change, found, stepped, -, rfl⟩ := Session.advance_ok_iff.1 worked
  obtain ⟨sameId, sameSession⟩ := same change after stepped
  refine ⟨rfl, Store.conversation?_withChange ?_ sameSession id⟩
  rw [sameId, Store.id_of_find? found]
  exact found

theorem recordUsage (context : CycleContext) (step : String) (answer : AgentAnswer) :
    IsSilent id (PlanCycle.recordUsage context step answer) := by
  intro store record last worked
  obtain ⟨-, -, rfl⟩ := recordUsage_ok_iff.1 worked
  exact ⟨rfl, rfl⟩

theorem requireWhole (answer : AgentAnswer) : IsSilent id (PlanCycle.requireWhole answer) := by
  intro store value last worked
  obtain ⟨-, rfl⟩ := requireWhole_ok_iff.1 worked
  exact ⟨rfl, rfl⟩

end Session.IsSilent

namespace Run.Works

theorem works {run : Run α} (works : Works id may run) {world last : World}
    {result : Except Stop α} (ran : run world = (result, last)) : world.Works id may last :=
  works ran

theorem of_readOnly {run : Run α} (reads : IsReadOnly run) : Works id may run :=
  fun _ _ _ ran => .of_unchanged (reads.unchanged ran)

theorem pure (value : α) : Works id may (pure value : Run α) := of_readOnly (.pure value)

theorem stop (reason : Stop) : Works id may (Run.stop reason : Run α) := of_readOnly (.stop reason)

theorem look (view : World → α) : Works id may (Run.look view) := of_readOnly (.look view)

theorem ofExcept (value : Except Stop α) : Works id may (Run.ofExcept value) :=
  of_readOnly (.ofExcept value)

theorem ofFiles (value : Except FileFault α) : Works id may (Run.ofFiles value) := ofExcept _

theorem say (text : String) : Works id may (Run.say text) := of_readOnly (.say text)

theorem warnAll (texts : List String) : Works id may (Run.warnAll texts) :=
  of_readOnly (.warnAll texts)

theorem bind {first : Run α} {next : α → Run β} (one : Works id may first)
    (two : ∀ value, Works id may (next value)) : Works id may (first >>= next) := by
  intro world result last ran
  rcases Run.bind_cases ran with ⟨_, stopped, -⟩ | ⟨value, after, begun, ran⟩
  · exact one stopped
  · exact (one begun).trans (two value ran)

theorem session {work : Session α} (silent : work.IsSilent id) :
    Works id may (Run.session work) := by
  intro world result last ran
  rcases Run.session_cases ran with ⟨_, _, _, rfl⟩ | ⟨value, store, worked, _, rfl⟩
  · exact .refl _
  · obtain ⟨log, known⟩ := silent worked
    exact ⟨log, .of_unasked known (List.append_nil _).symm (by simp)⟩

theorem changeFiles (change : Folder → Except FileFault Folder) :
    Works id may (Run.changeFiles change) := by
  intro world result last ran
  unfold Run.changeFiles at ran
  split at ran
  · cases ran
    exact ⟨rfl, .of_unasked rfl (List.append_nil _).symm (by simp)⟩
  · cases ran
    exact .refl world

theorem putDocument (artifact : Artifact) (answer : AgentAnswer) :
    Works id may (Cycle.putDocument artifact answer) := by
  unfold Cycle.putDocument
  dsimp only
  split
  · exact .changeFiles _
  · exact .bind (.changeFiles _) fun _ => .stop _

theorem runProcess (spawn : ProcessResult → Spawn) : Works id may (Run.runProcess spawn) := by
  intro world result last ran
  obtain ⟨ending, -, store, -, events⟩ := Run.runProcess_cases ran
  exact ⟨by rw [store], .of_unasked (by rw [store]) events (by simp)⟩

theorem call {call : AgentCall} {context : CycleContext} {accept : Folder → AgentAnswer → Bool}
    (allowed : ∀ earlier, may earlier call) : Works id may (call.run context accept) :=
  fun _ _ _ ran => AgentCall.works_run ran fun _ _ => allowed _

end Run.Works

/-- Whether a run does not itself give an error as the outcome of its cycle. -/
def Run.GivesNoError (run : Run (StepEnd α)) : Prop :=
  ∀ ⦃world outcome last⦄, run world = (.ok (.ended outcome), last) →
    ∀ kind step message, outcome ≠ .error kind step message

namespace Run.GivesNoError

theorem stop (reason : Stop) : GivesNoError (Run.stop reason : Run (StepEnd α)) := nofun

theorem done (value : α) : GivesNoError (pure (.done value) : Run (StepEnd α)) := nofun

theorem ended {outcome : CycleOutcome}
    (judged : ∀ kind step message, outcome ≠ .error kind step message) :
    GivesNoError (pure (.ended outcome) : Run (StepEnd α)) := by
  intro world given last ran
  cases ran
  exact judged

theorem bind {first : Run α} {next : α → Run (StepEnd β)}
    (two : ∀ value, GivesNoError (next value)) : GivesNoError (first >>= next) := by
  intro world outcome last ran
  obtain ⟨value, after, -, ended⟩ := Run.bind_ok ran
  exact two value ended

end Run.GivesNoError

/-! ### The steps of a cycle -/

namespace Cycle

open Run

/-- Whether a step is the frame around a run that keeps a law, however it ends, and that gives no
error for an outcome. -/
def Frames (context : CycleContext) (name : String) (law : World → World → Prop)
    (step : Run (StepEnd α)) : Prop :=
  ∃ body, step = runStep context name body ∧
    (∀ {world result last}, body world = (result, last) → law world last) ∧ body.GivesNoError

/-- The frame of a step only shows and logs. -/
theorem Frames.converses {context : CycleContext} {name : String} {law : World → World → Prop}
    {step : Run (StepEnd α)} {world last : World} {result : Except Stop (StepEnd α)}
    (frames : Frames context name law step)
    (works : ∀ {after}, law (world.logs (stepEvent context name "started")) after →
      (world.logs (stepEvent context name "started")).Converses id may after)
    (ran : step world = (result, last)) : world.Converses id may last := by
  obtain ⟨body, rfl, keeps, -⟩ := frames
  have begins : world.Converses id may (world.logs (stepEvent context name "started")) := .logs
  refine begins.trans ?_
  rcases runStep_cases ran with ⟨ending, after, begun, -, rfl⟩ |
    ⟨failure, after, begun, -, -, rfl⟩ | ⟨breakdown, reason, after, shown, begun, -, rfl, lines⟩
  · exact (works (keeps begun)).trans .logs
  · exact (works (keeps begun)).trans .afterFailure
  · exact (works (keeps begun)).trans (.lines lines)

theorem warnOfUsage_isReadOnly (step : String) (answer : AgentAnswer) :
    IsReadOnly (warnOfUsage step answer) := by
  unfold warnOfUsage
  split
  · exact .warnAll _
  · exact .pure _

theorem showSelfReview_isReadOnly (artifact : Artifact) (verdict : Verdict) :
    IsReadOnly (showSelfReview artifact verdict) := by
  unfold showSelfReview
  split
  · exact .bind (.warnAll [_]) fun _ => .say _
  · exact .say _
  · exact .say _

theorem showProblems_isReadOnly (problems : List Problem) :
    IsReadOnly (showProblems problems) := by
  induction problems with
  | nil => exact .pure _
  | cons problem problems ih => exact .bind (.say _) fun _ => ih

theorem keepAction_isSilent (context : CycleContext) (action : String) :
    (keepAction context action).IsSilent id :=
  .bind (.modify (fun _ => rfl) fun _ => rfl) fun _ => .pure _

theorem keepReview_isSilent (context : CycleContext) (artifact : Artifact) (kind : String)
    (review : Review) (iteration : Int) :
    (keepReview context artifact kind review iteration).IsSilent id := by
  intro store value last worked
  obtain ⟨-, -, rfl⟩ := keepReview_ok_iff.1 worked
  exact ⟨rfl, rfl⟩

/-- Only the author of the proposal gives the change a conversation. -/
theorem keepSession_cases {context : CycleContext} {artifact : Artifact} {answer : AgentAnswer}
    {store last : Store} {value : Unit}
    (worked : keepSession context artifact answer store = .ok (value, last)) :
    last.log = store.log ∧
      (last = store ∨
        artifact = .proposal ∧ answer.sessionId.isPresent = true ∧
        ∃ conversation, sessionText answer.sessionId = .ok conversation ∧
          last.conversation? context.changeId = some conversation) := by
  unfold keepSession at worked
  split at worked
  · rename_i named
    obtain ⟨rfl, present⟩ := named
    cases text : sessionText answer.sessionId with
    | error stop =>
        rw [text] at worked
        cases worked
    | ok conversation =>
        rw [text] at worked
        obtain ⟨change, _, modified, ended⟩ := Session.bind_ok_iff.1 worked
        obtain ⟨old, found, rfl, -, rfl⟩ := Session.modify_ok_iff.1 modified
        obtain ⟨-, rfl⟩ := Session.pure_ok_iff.1 ended
        refine ⟨rfl, .inr ⟨rfl, present, conversation, rfl, ?_⟩⟩
        have standing : (store.withChange { old with sessionId := some conversation }).find?
            context.changeId = some { old with sessionId := some conversation } :=
          Store.find?_withChange_self found rfl
        rw [Store.conversation?, standing]
        rfl
  · obtain ⟨-, rfl⟩ := Session.pure_ok_iff.1 worked
    exact ⟨rfl, .inl rfl⟩

/-- What is kept of a document gives the change a conversation only if it is the proposal's. -/
theorem keepDocument_known {context : CycleContext} {artifact : Artifact} {answer : AgentAnswer}
    {step action : String} {store last : Store} {value : Unit}
    (worked : (do
      let _ ← recordUsage context step answer
      let _ ← Session.load context.changeId
      keepSession context artifact answer
      keepAction context action : Session Unit) store = .ok (value, last)) :
    last.log = store.log ∧
      (last.conversation? context.changeId = store.conversation? context.changeId ∨
        artifact = .proposal ∧ answer.sessionId.isPresent = true ∧
        ∃ conversation, sessionText answer.sessionId = .ok conversation ∧
          last.conversation? context.changeId = some conversation) := by
  obtain ⟨record, used, recorded, worked⟩ := Session.bind_ok_iff.1 worked
  obtain ⟨change, _, loaded, worked⟩ := Session.bind_ok_iff.1 worked
  obtain ⟨_, named, naming, acted⟩ := Session.bind_ok_iff.1 worked
  obtain ⟨-, rfl⟩ := Session.load_ok_iff.1 loaded
  obtain ⟨-, -, rfl⟩ := recordUsage_ok_iff.1 recorded
  obtain ⟨log, known⟩ := keepSession_cases naming
  have acting : (keepAction context action).IsSilent context.changeId := keepAction_isSilent _ _
  obtain ⟨sameLog, same⟩ := acting acted
  refine ⟨sameLog.trans log, ?_⟩
  rw [same]
  rcases known with rfl | named
  · exact .inl rfl
  · exact .inr named

/-- What an accepted proposal is kept with is the conversation that its author named. -/
theorem keepDocument_works {context : CycleContext} {artifact : Artifact} {answer : AgentAnswer}
    {world last : World} {result : Except Stop Unit}
    (accepted : (Role.generator, "generate:" ++ artifact.name, answer) ∈
      Event.acceptedCalls world.events)
    (ran : keepDocument context artifact answer world = (result, last)) :
    world.Works context.changeId may last := by
  have warns : IsReadOnly (warnOfUsage ("generate:" ++ artifact.name) answer) :=
    warnOfUsage_isReadOnly _ _
  rcases Run.bind_cases ran with ⟨_, stopped, -⟩ | ⟨_, warned, warning, ran⟩
  · exact (Works.of_readOnly warns).works stopped
  refine World.Works.trans (.of_unchanged (warns.unchanged warning)) ?_
  obtain ⟨-, -, shown, events, -⟩ := warns.unchanged warning
  rcases Run.bind_cases ran with ⟨_, stopped, -⟩ | ⟨_, kept, begun, ran⟩
  · rcases Run.session_cases stopped with ⟨_, _, _, rfl⟩ | ⟨_, _, _, impossible, _⟩
    · exact .refl _
    · cases impossible
  rcases Run.session_cases begun with ⟨_, _, impossible, _⟩ | ⟨_, store, worked, _, rfl⟩
  · cases impossible
  refine World.Works.trans ?_ ((Works.say _).works ran)
  obtain ⟨log, known⟩ := keepDocument_known worked
  refine ⟨log, ⟨[], (List.append_nil _).symm, .of_unasked (by simp)⟩, ?_⟩
  rcases known with same | ⟨rfl, present, conversation, text, known⟩
  · exact .inl same
  · refine .inr ⟨conversation, known, answer, ?_, present, text⟩
    rw [events]
    simp [accepted]

/-- Filling in a document changes the files only, so that it is there: as its author wrote it, or
else with what the author answered. -/
theorem fillDocument_cases {context : CycleContext} {artifact : Artifact} {answer : AgentAnswer}
    {world last : World} {result : Except Stop Unit}
    (ran : fillDocument context artifact answer world = (result, last)) :
    last.store = world.store ∧ last.events = world.events ∧
      (result = .ok () → last.files.file? artifact.file =
        some ((world.files.file? artifact.file).getD (.text (documentOf answer.output)))) := by
  unfold fillDocument documents at ran
  rw [Run.bind_of_ok (Run.look_apply _ world)] at ran
  split at ran
  · rename_i absent
    have none_there : world.files.file? artifact.file = none := by
      rw [Folder.file?_eq_none_iff]
      simpa [ChangeFolder.has, CycleContext.folder] using absent
    rcases putDocument_cases ran with ⟨files, -, written, rfl, rfl⟩ | ⟨_, -, -, rfl, rfl⟩ |
      ⟨_, rfl, rfl⟩
    · refine ⟨rfl, rfl, fun _ => ?_⟩
      rw [none_there]
      exact (Folder.file?_writeContent written artifact.file).trans (if_pos rfl)
    · exact ⟨rfl, rfl, nofun⟩
    · exact ⟨rfl, rfl, nofun⟩
  · rename_i there
    obtain ⟨content, written⟩ : ∃ content, world.files.file? artifact.file = some content := by
      rw [← Folder.isFile_iff]
      simpa [ChangeFolder.has, CycleContext.folder] using there
    cases ran
    refine ⟨rfl, rfl, fun _ => ?_⟩
    rw [written]
    rfl

/-- A document is asked for in a conversation of its own.  If the document is the proposal, that
conversation is the one of the change from then on. -/
theorem writeDocument_works (anew : ∀ earlier call, call.StartsAnew → may earlier call)
    (context : CycleContext) (artifact : Artifact) :
    Works context.changeId may (writeDocument context artifact) := by
  intro world result last ran
  rw [writeDocument_eq] at ran
  rcases Run.bind_cases ran with ⟨_, impossible, -⟩ | ⟨_, shown, begun, ran⟩
  · cases impossible
  refine World.Works.trans ((Works.say _).works begun) ?_
  rw [documents, Run.bind_of_ok (Run.look_apply _ shown)] at ran
  rcases Run.bind_cases ran with ⟨_, stopped, -⟩ | ⟨prompt, asking, prompted, ran⟩
  · exact (Works.ofExcept _).works stopped
  refine World.Works.trans ((Works.ofExcept _).works prompted) ?_
  have calling : Works context.changeId may
      ((documentCall context artifact (context.folder shown) prompt).run context
        fun files answer => files.isFile artifact.file || saysSomething answer) :=
    .call fun _ => anew _ _ (.of_head rfl (by simp [documentCall]; rfl) (by decide))
  rcases Run.bind_cases ran with ⟨_, stopped, -⟩ | ⟨answer, answered, asked, ran⟩
  · exact calling stopped
  refine (calling asked).trans ?_
  have accepted := AgentCall.acceptedCalls_run asked
  have filling : Works context.changeId may (fillDocument context artifact answer) := by
    refine .bind (.look _) fun folder => ?_
    split
    · exact .putDocument artifact answer
    · exact .pure _
  rcases Run.bind_cases ran with ⟨_, stopped, -⟩ | ⟨_, filled, fill, ran⟩
  · exact filling stopped
  refine (filling fill).trans (keepDocument_works ?_ ran)
  obtain ⟨-, events, -⟩ := fillDocument_cases fill
  rw [events, accepted]
  exact List.mem_append_right _ List.mem_cons_self

theorem selfReview_works (anew : ∀ earlier call, call.StartsAnew → may earlier call)
    (context : CycleContext) (artifact : Artifact) :
    Works id may (selfReview context artifact) := by
  unfold selfReview
  refine .bind (.look _) fun folder => .bind (.call fun _ => anew _ _ ?_) fun answer => ?_
  · exact .of_head rfl (by simp; rfl) (by decide)
  refine .bind (.warnAll _) fun _ =>
    .bind (.of_readOnly (showSelfReview_isReadOnly _ _)) fun _ => ?_
  refine .bind (.of_readOnly (warnOfUsage_isReadOnly _ _)) fun _ => .session ?_
  refine .bind (.recordUsage _ _ _) fun _ => .bind (.load _) fun _ => ?_
  exact .bind (.requireWhole _) fun _ => keepReview_isSilent _ _ _ _ _

theorem generateMissing_works (anew : ∀ earlier call, call.StartsAnew → may earlier call)
    (context : CycleContext) (artifact : Artifact) :
    Works context.changeId may (generateMissing context artifact) := by
  unfold generateMissing generate
  refine .bind (.look _) fun folder => ?_
  split
  · exact .say _
  · refine .bind (writeDocument_works anew context artifact) fun _ => ?_
    split
    · exact selfReview_works anew context artifact
    · exact .pure _

theorem generateAll_works (anew : ∀ earlier call, call.StartsAnew → may earlier call)
    (context : CycleContext) (artifacts : List Artifact) :
    Works context.changeId may (generateAll context artifacts) := by
  induction artifacts with
  | nil => exact .pure _
  | cons artifact artifacts ih =>
      exact .bind (generateMissing_works anew context artifact) fun _ => ih

theorem generateStep_frames (anew : ∀ earlier call, call.StartsAnew → may earlier call)
    (context : CycleContext) :
    Frames context "generate" (World.Works context.changeId may) (generateStep context) := by
  refine ⟨_, rfl, Works.works ?_, ?_⟩
  · refine .bind (generateMissing_works anew context _) fun _ => .bind (.look _) fun folder => ?_
    refine .bind (.ofFiles _) fun required => ?_
    exact .bind (generateAll_works anew context _) fun _ => .pure _
  · exact .bind fun _ => .bind fun _ => .bind fun _ => .bind fun _ => .done _

theorem validateStep_frames (context : CycleContext) :
    Frames context "validate" (World.Works id may) (validateStep context) := by
  refine ⟨_, rfl, Works.works ?_, ?_⟩
  · refine .bind (.of_readOnly (validated_isReadOnly context)) fun validation => ?_
    refine .bind (.of_readOnly (showProblems_isReadOnly _)) fun _ => ?_
    split
    · exact .stop _
    · exact .pure _
  · refine .bind fun validation => .bind fun _ => ?_
    split
    · exact .stop _
    · exact .done _

theorem keepCritique_isSilent (context : CycleContext) (answer : AgentAnswer) (review : Review)
    (iteration : Int) : (keepCritique context answer review iteration).IsSilent id := by
  intro store value last worked
  obtain ⟨used, change, -, -, -, found, -, -, -, rfl⟩ := keepCritique_ok_iff.1 worked
  have known : store.find? (criticised change review iteration).id = some change :=
    (congrArg store.find? (Store.id_of_find? found)).trans found
  exact ⟨rfl, Store.conversation?_withChange known rfl id⟩

theorem challengeStep_frames (anew : ∀ earlier call, call.StartsAnew → may earlier call)
    (context : CycleContext) (iteration : Nat) :
    Frames context "challenge" (World.Works id may) (challengeStep context iteration) := by
  have criticising : Works id may (critique context iteration) := by
    refine .bind (.look _) fun folder => .bind (.say _) fun _ => .bind (.ofFiles _) fun prompt => ?_
    refine .bind (.call fun _ => anew _ _ ?_) fun answer => ?_
    · exact .of_head (c := 'c') rfl (by simp) (by decide)
    refine .bind (.warnAll _) fun _ => .bind (.of_readOnly (warnOfUsage_isReadOnly _ _)) fun _ => ?_
    exact .bind (.session (keepCritique_isSilent _ _ _ _)) fun _ => .pure _
  refine ⟨_, rfl, Works.works (.bind criticising fun review => ?_), .bind fun review => ?_⟩
  · unfold applyCritique
    split
    · exact .stop _
    split
    · exact .stop _
    refine .bind (.changeFiles _) fun _ => ?_
    split
    · exact .bind (.say _) fun _ => .pure _
    · exact .bind (.say _) fun _ => .pure _
    · exact .bind (.say _) fun _ => .pure _
  · unfold applyCritique
    split
    · exact .stop _
    split
    · exact .stop _
    refine .bind fun _ => ?_
    split
    · exact .bind fun _ => .ended nofun
    · exact .bind fun _ => .ended nofun
    · exact .bind fun _ => .done _

/-! ### Revisions -/

/-- How a revision takes up the conversation that is on record when it is due: by its index in a
listing that is fetched for it.  Between the listing and the call there are only lines and earlier
attempts at the call. -/
def TakesUp (context : CycleContext) (number : Nat) (due : World) (earlier : List Event)
    (call : AgentCall) : Prop :=
  ∃ conversation result listing index meanwhile,
    due.store.conversation? context.changeId = some conversation ∧ conversation ≠ "" ∧
    earlier = due.events ++ .ran (context.lister.spawn context.root result) result :: meanwhile ∧
    (∀ event ∈ meanwhile, call.IsAttempt event) ∧
    context.lister.listing result = .ok listing ∧
    sessionIndex listing conversation = .ok index ∧ 1 ≤ index ∧
    call.step = "revise:" ++ toString number ∧ call.role = .generator ∧
    call.resume = .index index.toNat

theorem resolve_ok_iff {lister : SessionLister} {result : ProcessResult} {conversation : String}
    {index : Int} : lister.resolve result conversation = .ok index ↔
      ∃ listing, lister.listing result = .ok listing ∧
        sessionIndex listing conversation = .ok index := by
  unfold SessionLister.resolve
  cases lister.listing result with
  | error failure =>
      constructor
      · intro impossible
        cases impossible
      · rintro ⟨_, ⟨⟩, _⟩
  | ok listing =>
      change (sessionIndex listing conversation).mapError ListFault.stop = .ok index ↔ _
      constructor
      · intro resolved
        refine ⟨listing, rfl, ?_⟩
        cases found : sessionIndex listing conversation with
        | error fault =>
            rw [found] at resolved
            cases resolved
        | ok known =>
            rw [found] at resolved
            cases resolved
            rfl
      · rintro ⟨_, ⟨⟩, found⟩
        rw [found]
        rfl

theorem byIndex?_eq_some {index : Int} {resume : Resume}
    (known : Resume.byIndex? index = some resume) : 1 ≤ index ∧ resume = .index index.toNat := by
  unfold Resume.byIndex? at known
  split at known
  · cases known
  · cases known
    exact ⟨by omega, rfl⟩

/-- The index of the conversation on record is looked up in a listing that is fetched now. -/
theorem conversationIndex_ok {context : CycleContext} {world last : World} {index : Int}
    (ran : conversationIndex context world = (.ok index, last)) :
    last.store = world.store ∧
      ∃ conversation result listing,
        world.store.conversation? context.changeId = some conversation ∧ conversation ≠ "" ∧
        last.events =
          world.events ++ [.ran (context.lister.spawn context.root result) result] ∧
        context.lister.listing result = .ok listing ∧
        sessionIndex listing conversation = .ok index := by
  unfold conversationIndex at ran
  obtain ⟨change, _, loaded, ran⟩ := Run.bind_ok ran
  rcases Run.session_cases loaded with ⟨_, _, impossible, _⟩ | ⟨_, _, worked, same, rfl⟩
  · cases impossible
  cases same
  obtain ⟨found, rfl⟩ := Session.load_ok_iff.1 worked
  cases recorded : change.sessionId.filter (· != "") with
  | none =>
      rw [recorded] at ran
      cases ran
  | some conversation =>
      rw [recorded] at ran
      obtain ⟨known, named⟩ := Option.filter_eq_some_iff.mp recorded
      obtain ⟨result, listed, fetched, ran⟩ := Run.bind_ok ran
      obtain ⟨_, same, store, -, events⟩ := Run.runProcess_cases fetched
      cases same
      rw [Run.ofExcept_apply] at ran
      obtain ⟨resolved, rfl⟩ := Prod.mk.inj ran
      obtain ⟨listing, listed, indexed⟩ := resolve_ok_iff.1 resolved
      refine ⟨store, conversation, result, listing, ?_, by simpa using named, events, listed,
        indexed⟩
      rw [Store.conversation?, found]
      exact known

/-- A revision is asked for in the conversation that is on record when it is due. -/
theorem revise_works {context : CycleContext} {number : Nat} {review : Review}
    {world last : World} {result : Except Stop Unit}
    (ran : revise context number review world = (result, last)) :
    world.Works id (TakesUp context number world) last := by
  have indexing : Works id (TakesUp context number world) (conversationIndex context) := by
    refine .bind (.session (.load _)) fun change => ?_
    split
    · exact .stop _
    · exact .bind (.runProcess _) fun _ => .ofExcept _
  rcases Run.bind_cases ran with ⟨_, stopped, -⟩ | ⟨index, indexed, begun, ran⟩
  · exact indexing stopped
  refine (indexing begun).trans ?_
  obtain ⟨-, conversation, fetched, listing, known, named, events, listed, found⟩ :=
    conversationIndex_ok begun
  rw [Run.bind_of_ok (Run.say_apply _ indexed), documents,
    Run.bind_of_ok (Run.look_apply _ _)] at ran
  generalize "[cyan]Revising in session #" ++ Number.intText index ++ " (iteration " ++
    toString number ++ ")...[/cyan]" = text at ran
  refine World.Works.trans ((Works.say text).works (Run.say_apply text indexed)) ?_
  cases resumed : Resume.byIndex? index with
  | none =>
      rw [resumed] at ran
      exact (Works.stop _).works ran
  | some resume =>
      rw [resumed] at ran
      obtain ⟨positive, rfl⟩ := byIndex?_eq_some resumed
      -- The line before the call counts to what lies between the listing and the call.
      have calling {answered : World} {given : Except Stop AgentAnswer}
          (asked : (revisionCall context number (context.folder (indexed.shows [.line text])) review
            (.index index.toNat)).run context (fun _ _ => true) (indexed.shows [.line text]) =
              (given, answered)) :
          (indexed.shows [.line text]).Works id (TakesUp context number world) answered := by
        refine AgentCall.works_run asked fun meanwhile attempts => ?_
        refine ⟨conversation, fetched, listing, index, .line text :: meanwhile, known, named, ?_,
          ?_, listed, found, positive, rfl, rfl, rfl⟩
        · rw [World.events_shows, events, List.append_assoc, List.append_assoc]
          rfl
        · intro event member
          rcases List.mem_cons.mp member with rfl | among
          · trivial
          · exact attempts event among
      rcases Run.bind_cases ran with ⟨_, stopped, -⟩ | ⟨answer, answered, asked, ran⟩
      · exact calling stopped
      refine World.Works.trans (calling asked) ?_
      have keeping : Works id (TakesUp context number world) (do
          warnOfUsage ("revise:" ++ toString number) answer
          Run.session do
            let _ ← recordUsage context ("revise:" ++ toString number) answer
            let _ ← Session.modify context.changeId fun change =>
              { change with iteration := change.iteration + 1 }
            keepAction context ("revised after challenge " ++ toString number)) := by
        refine .bind (.of_readOnly (warnOfUsage_isReadOnly _ _)) fun _ => .session ?_
        refine .bind (.recordUsage _ _ _) fun _ => .bind (.modify (fun _ => rfl) fun _ => rfl) ?_
        exact fun _ => keepAction_isSilent _ _
      exact keeping ran

theorem reviseStep_frames (context : CycleContext) (number : Nat) (review : Review) :
    Frames context "revise" (fun world => world.Works id (TakesUp context number world))
      (reviseStep context number review) := by
  refine ⟨_, rfl, fun {world result last} ran => ?_, ?_⟩
  · split at ran
    · cases ran
      exact .refl _
    · rcases Run.bind_cases ran with ⟨_, stopped, -⟩ | ⟨_, after, revised, ended⟩
      · exact revise_works stopped
      · cases ended
        exact revise_works revised
  · split
    · exact .ended nofun
    · exact .bind fun _ => .done _

end Cycle

end

end PlanCycle
