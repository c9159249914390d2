/-
Module: PlanCycle.Proofs.Billing
Purpose: What a cycle asked of agents is on record: each answer that was accepted, once and in
  order, with its step, its model, its counts and their cost, unless a breakdown stops the cycle.
Main exports:
  UsageEntry.IsFor, Session.Books, World.Books, Guarantee.unbilled, Run.Books,
  Cycle.runCycle_books, Cycle.runChallenge_books
-/
import Mathlib.Data.List.Forall2
import PlanCycle.Proofs.Guarantee
import PlanCycle.Proofs.Rerun

namespace PlanCycle

open Number

variable {α β : Type}

/-! ### Records of calls -/

/-- Whether a usage record is the one of a call of an agent about a change: it names the step and
the model, holds the counts with negatives as zero, and costs what these cost. -/
structure UsageEntry.IsFor (prices : PriceTable) (id : String)
    (call : Role × String × AgentAnswer) (entry : UsageEntry) : Prop where
  change : entry.changeId = id
  step : entry.usage.step = call.2.1
  model : call.2.2.model = .string entry.usage.model
  tokensIn : entry.usage.tokensIn = max call.2.2.inputTokens 0
  tokensOut : entry.usage.tokensOut = max call.2.2.outputTokens 0
  cost : entry.usage.cost =
    prices.cost entry.usage.model entry.usage.tokensIn entry.usage.tokensOut

theorem UsageEntry.isFor_record {context : CycleContext} {role : Role} {step : String}
    {answer : AgentAnswer} {record : UsageRecord}
    (recorded : answer.record? context step = some record) :
    IsFor context.prices context.changeId (role, step, answer)
      (.ofRecord context.changeId record) := by
  unfold AgentAnswer.record? at recorded
  obtain ⟨usage, used, rfl⟩ := Option.map_eq_some_iff.mp recorded
  unfold AgentAnswer.usage? at used
  obtain ⟨model, named, rfl⟩ := Option.map_eq_some_iff.mp used
  have model_eq : answer.model = .string model := by
    unfold Json.string? at named
    split at named
    · rename_i text same
      rw [same, Option.some.inj named]
    · cases named
  refine ⟨rfl, ?_, ?_, ?_, ?_, ?_⟩ <;>
    simp only [UsageEntry.usage_ofRecord, UsageRecord.asRead, UsageRecord.ofUsage,
      AgentAnswer.usageOf, model_eq]

/-- Whether a change that is allowed is on record. -/
def Store.Knows (store : Store) (id : String) (allowed : Change → Prop) : Prop :=
  ∃ change, store.find? id = some change ∧ allowed change

/-! ### Sessions that keep a record -/

namespace Session

theorem bind_of_error {first : Session α} {next : α → Session β} {store : Store} {reason : Stop}
    (stopped : first store = .error reason) : (first >>= next) store = .error reason := by
  change andThen first next store = _
  unfold andThen
  rw [stopped]

theorem requireFit_of_unfit {numbers : List Int} (unfit : fits numbers = false) (store : Store) :
    requireFit numbers store = .error (.breakdown .overflow) := by
  unfold requireFit
  rw [unfit]
  rfl

/-- No failure stops the recording of what was used, at worst a breakdown does. -/
theorem recordUsage_cases (context : CycleContext) (step : String) (answer : AgentAnswer)
    (store : Store) :
    (∃ breakdown, recordUsage context step answer store = .error (.breakdown breakdown)) ∨
      ∃ record last, recordUsage context step answer store = .ok (record, last) := by
  unfold recordUsage
  cases answer.usage? with
  | none => exact .inl ⟨_, rfl⟩
  | some usage =>
      unfold record addUsage
      cases fit : fits [(UsageRecord.ofUsage context.prices step usage).tokensIn,
          (UsageRecord.ofUsage context.prices step usage).tokensOut,
          (UsageRecord.ofUsage context.prices step usage).duration] with
      | false => exact .inl ⟨_, bind_of_error (requireFit_of_unfit fit store)⟩
      | true =>
          have small : requireFit _ store = .ok ((), store) := requireFit_ok_iff.2 ⟨fit, rfl⟩
          exact .inr ⟨_, _, bind_of_ok small⟩

/-- Whether a session on a change that is allowed books the calls that are owed, unless a breakdown
stops it: no failure does.  The change is on record afterwards, as it may be then. -/
def Books (context : CycleContext) (before after : Change → Prop)
    (owed : List (Role × String × AgentAnswer)) (work : Session α) : Prop :=
  ∀ ⦃store⦄, store.Knows context.changeId before →
    (∃ breakdown, work store = .error (.breakdown breakdown)) ∨
      ∃ value last used, work store = .ok (value, last) ∧ last.Knows context.changeId after ∧
        last.usage = store.usage ++ used ∧
        List.Forall₂ (UsageEntry.IsFor context.prices context.changeId) owed used

namespace Books

variable {context : CycleContext} {first second third : Change → Prop}
variable {owed : List (Role × String × AgentAnswer)}

theorem pure (value : α) : Books context first first [] (pure value : Session α) :=
  fun store known => .inr ⟨value, store, [], rfl, known, by simp, .nil⟩

/-- What is owed is booked first. -/
theorem bind {work : Session α} {next : α → Session β} (one : Books context first second owed work)
    (two : ∀ value, Books context second third [] (next value)) :
    Books context first third owed (work >>= next) := by
  intro store known
  rcases one known with ⟨breakdown, stopped⟩ | ⟨value, between, used, done, still, usage, booked⟩
  · exact .inl ⟨breakdown, bind_of_error stopped⟩
  rcases two value still with ⟨breakdown, stopped⟩ | ⟨result, last, more, ended, known, rest, none⟩
  · exact .inl ⟨breakdown, (bind_of_ok done).trans stopped⟩
  · cases none
    rw [List.append_nil] at rest
    exact .inr ⟨result, last, used, (bind_of_ok done).trans ended, known, rest.trans usage, booked⟩

theorem recordUsage (role : Role) (step : String) (answer : AgentAnswer) :
    Books context first first [(role, step, answer)]
      (PlanCycle.recordUsage context step answer) := by
  intro store known
  rcases recordUsage_cases context step answer store with stopped | ⟨record, last, worked⟩
  · exact .inl stopped
  · obtain ⟨recorded, -, rfl⟩ := recordUsage_ok_iff.1 worked
    exact .inr ⟨record, _, _, worked, known, rfl, .cons (UsageEntry.isFor_record recorded) .nil⟩

theorem load : Books context first first [] (Session.load context.changeId) := by
  intro store known
  obtain ⟨change, found, allowed⟩ := known
  exact .inr ⟨change, store, [], load_ok_iff.2 ⟨found, rfl⟩, ⟨change, found, allowed⟩, by simp,
    .nil⟩

/-- A record is saved in the place of the one that is there, unless its number is too great. -/
theorem save {store : Store} {old change : Change}
    (found : store.find? context.changeId = some old) (same : change.id = old.id)
    (allowed : second change) :
    (∃ breakdown, Session.save change store = .error (.breakdown breakdown)) ∨
      Session.save change store = .ok ((), store.withChange change) ∧
        (store.withChange change).Knows context.changeId second := by
  cases fit : fits [change.iteration] with
  | true =>
      exact .inr ⟨save_ok_iff.2 ⟨fit, rfl⟩, change, Store.find?_withChange_self found same, allowed⟩
  | false => exact .inl ⟨_, bind_of_error (requireFit_of_unfit fit store)⟩

theorem modify {edit : Change → Change} (sameId : ∀ change, (edit change).id = change.id)
    (keeps : ∀ change, first change → second (edit change)) :
    Books context first second [] (Session.modify context.changeId edit) := by
  rintro store ⟨change, found, allowed⟩
  have loaded : Session.load context.changeId store = .ok (change, store) :=
    load_ok_iff.2 ⟨found, rfl⟩
  unfold Session.modify
  rw [bind_of_ok loaded]
  rcases save found (sameId change) (keeps change allowed) with
    ⟨breakdown, stopped⟩ | ⟨saved, known⟩
  · exact .inl ⟨breakdown, bind_of_error stopped⟩
  · exact .inr ⟨_, _, [], bind_of_ok saved, known, (List.append_nil _).symm, .nil⟩

theorem advance {step : Change → Except Failure Change}
    (moves : ∀ change, first change → ∃ moved, step change = .ok moved ∧ moved.id = change.id ∧
      second moved) : Books context first second [] (Session.advance context.changeId step) := by
  rintro store ⟨change, found, allowed⟩
  obtain ⟨moved, stepped, sameId, allowed⟩ := moves change allowed
  have loaded : Session.load context.changeId store = .ok (change, store) :=
    load_ok_iff.2 ⟨found, rfl⟩
  unfold Session.advance
  rw [bind_of_ok loaded, stepped]
  dsimp only
  rcases save found sameId allowed with ⟨breakdown, stopped⟩ | ⟨saved, known⟩
  · exact .inl ⟨breakdown, bind_of_error stopped⟩
  · exact .inr ⟨_, _, [], bind_of_ok saved, known, (List.append_nil _).symm, .nil⟩

theorem keepReview (artifact : Artifact) (kind : String) (review : Review) (iteration : Int) :
    Books context first first [] (Cycle.keepReview context artifact kind review iteration) := by
  intro store known
  obtain ⟨change, found, allowed⟩ := known
  cases fit : fits [iteration] with
  | true =>
      exact .inr ⟨(), _, [], Cycle.keepReview_ok_iff.2 ⟨⟨change, found⟩, fit, rfl⟩,
        ⟨change, found, allowed⟩, (List.append_nil _).symm, .nil⟩
  | false =>
      have loaded : Session.load context.changeId store = .ok (change, store) :=
        load_ok_iff.2 ⟨found, rfl⟩
      have unfit := requireFit_of_unfit fit store
      exact .inl ⟨_, bind_of_error ((bind_of_ok loaded).trans (bind_of_error unfit))⟩

theorem keepAction (action : String) :
    Books context (fun _ => True) (fun _ => True) [] (Cycle.keepAction context action) :=
  .bind (.modify (fun _ => rfl) fun _ _ => trivial) fun _ => .pure _

theorem keepSession (artifact : Artifact) (answer : AgentAnswer) :
    Books context (fun _ => True) (fun _ => True) []
      (Cycle.keepSession context artifact answer) := by
  unfold Cycle.keepSession
  split
  · cases spoken : Cycle.sessionText answer.sessionId with
    | ok id => exact .bind (.modify (fun _ => rfl) fun _ _ => trivial) fun _ => .pure _
    | error reason =>
        -- What cannot be kept as a text is a breakdown.
        have broken : ∃ breakdown, reason = .breakdown breakdown := by
          unfold Cycle.sessionText at spoken
          split at spoken
          · cases spoken
          · cases spoken
          · split at spoken
            · cases spoken
            · cases spoken
              exact ⟨_, rfl⟩
          · cases spoken
          · cases spoken
            exact ⟨_, rfl⟩
          · cases spoken
            exact ⟨_, rfl⟩
        obtain ⟨breakdown, rfl⟩ := broken
        exact fun store _ => .inl ⟨breakdown, rfl⟩
  · exact .pure _

theorem requireWhole (answer : AgentAnswer) :
    Books context first first [] (PlanCycle.requireWhole answer) := by
  intro store known
  unfold PlanCycle.requireWhole
  split
  · exact .inr ⟨(), store, [], rfl, known, (List.append_nil _).symm, .nil⟩
  · exact .inl ⟨_, rfl⟩

/-- A critique of a proposed change is booked: its verdict, if it is applied, can be. -/
theorem keepCritique (answer : AgentAnswer) (review : Review) (iteration : Int) :
    Books context (·.phase = .proposed) (fun _ => True) [(.critic, "challenge", answer)]
      (Cycle.keepCritique context answer review iteration) := by
  have acting : Books context (·.phase = .proposed) (fun _ => True) []
      (Cycle.keepAction context
        ("challenge " ++ intText iteration ++ ": " ++ review.verdict.word)) :=
    .bind (.modify (fun _ => rfl) fun _ _ => trivial) fun _ => .pure _
  unfold Cycle.keepCritique
  refine .bind (.recordUsage _ _ answer) fun _ => .bind (.requireWhole answer) fun _ => ?_
  refine .bind (.keepReview _ _ _ _) fun _ => ?_
  dsimp only
  split
  · rename_i applicable
    refine .bind (.advance fun change proposed => ?_) fun _ => .keepAction _
    obtain ⟨target, verdict⟩ : ∃ target, Phase.ofVerdict? review.verdict = some target := by
      unfold Cycle.isApplicable at applicable
      cases verdict : review.verdict with
      | unknown => simp [verdict] at applicable
      | approved => exact ⟨_, rfl⟩
      | needsRevision => exact ⟨_, rfl⟩
      | rejected => exact ⟨_, rfl⟩
    exact ⟨_, Change.applyVerdict_ok_iff.2 ⟨target, verdict, proposed, rfl⟩, rfl, trivial⟩
  · exact acting

end Books

end Session

/-! ### What a call adds to the trace -/

namespace AgentCall

section
variable {call : AgentCall} {context : CycleContext} {accept : Folder → AgentAnswer → Bool}
variable {world last : World}

/-- A call that gives an answer adds just that one to the accepted ones. -/
theorem events_run {answer : AgentAnswer}
    (ran : call.run context accept world = (.ok answer, last)) :
    ∃ added, last.events = world.events ++ added ∧
      Event.acceptedCalls added = [(call.role, call.step, answer)] := by
  have accepted := acceptedCalls_run ran
  rcases run_leaves ran with ⟨impossible, -⟩ | ⟨⟨-, tried, -, events⟩, -⟩
  · cases impossible
  · rw [List.append_assoc] at events
    rw [events, Event.acceptedCalls_append] at accepted
    exact ⟨_, events, List.append_cancel_left accepted⟩

end

end AgentCall

/-! ### Runs that keep the books -/

/-- Whether the calls that are owed and those whose answers were accepted meanwhile were booked, in
this order and behind all older records.  The change is on record. -/
structure World.Books (context : CycleContext) (owed : List (Role × String × AgentAnswer))
    (before after : World) : Prop where
  known : after.store.Knows context.changeId fun _ => True
  booked : ∃ added used, after.events = before.events ++ added ∧
    after.store.usage = before.store.usage ++ used ∧
    List.Forall₂ (UsageEntry.IsFor context.prices context.changeId)
      (owed ++ Event.acceptedCalls added) used

/-- No answer is accepted and the records of usage stay as they are. -/
def Guarantee.costless : Guarantee where
  holds before after := after.store.usage = before.store.usage ∧
    ∃ added, after.events = before.events ++ added ∧ Event.acceptedCalls added = []
  refl world := ⟨rfl, [], by simp, rfl⟩
  trans earlier later := by
    obtain ⟨usage, added, events, one⟩ := earlier
    obtain ⟨moreUsage, more, moreEvents, two⟩ := later
    refine ⟨moreUsage.trans usage, added ++ more, ?_, by simp [one, two]⟩
    rw [moreEvents, events, List.append_assoc]
  line _ _ := ⟨rfl, _, rfl, rfl⟩
  warning _ _ := ⟨rfl, _, rfl, rfl⟩
  logs _ _ := ⟨rfl, [], by simp, rfl⟩

/-- Nothing is booked and nothing has to be, and the record of the change stays as it is. -/
def Guarantee.unbilled (id : String) : Guarantee where
  holds before after :=
    costless.holds before after ∧ after.store.find? id = before.store.find? id
  refl world := ⟨costless.refl world, rfl⟩
  trans earlier later := ⟨costless.trans earlier.1 later.1, later.2.trans earlier.2⟩
  line world text := ⟨costless.line world text, rfl⟩
  warning world text := ⟨costless.warning world text, rfl⟩
  logs world entry := ⟨costless.logs world entry, rfl⟩

/-- A call that gives no answer leaves nothing to be booked. -/
theorem AgentCall.run_unbilled {call : AgentCall} {context : CycleContext}
    {accept : Folder → AgentAnswer → Bool} {world last : World} {reason : Stop} {id : String}
    (ran : call.run context accept world = (.error reason, last)) :
    (Guarantee.unbilled id).holds world last := by
  rcases run_leaves ran with ⟨-, rfl⟩ | ⟨⟨store, tried, attempts, events⟩, -⟩
  · exact (Guarantee.unbilled id).refl _
  · have unaccepted : Event.acceptedCalls (.asked call world.files :: tried) = [] :=
      Event.acceptedCalls_of_shown fun event member => by
        rcases List.mem_cons.mp member with rfl | later
        · rfl
        · exact (attempts event later).accepted?
    refine ⟨⟨by rw [store], .asked call world.files :: tried, ?_, unaccepted⟩, by rw [store]⟩
    rw [events]
    simp [ending]

section
variable {context : CycleContext} {owed : List (Role × String × AgentAnswer)}
variable {allowed : Change → Prop}

open Guarantee

theorem Store.Knows.of_unbilled {before after : World} {id : String}
    (known : before.store.Knows id allowed) (quiet : (unbilled id).holds before after) :
    after.store.Knows id allowed := by
  obtain ⟨change, found, allows⟩ := known
  exact ⟨change, quiet.2.trans found, allows⟩

theorem Store.knows_iff_standing {store : Store} {id : String} {phase : Phase} :
    store.Knows id (·.phase = phase) ↔ (store.standing id).1 = some phase :=
  Option.map_eq_some_iff.symm

theorem Store.Knows.weaken {store : Store} {id : String} (known : store.Knows id allowed) :
    store.Knows id fun _ => True := by
  obtain ⟨change, found, -⟩ := known
  exact ⟨change, found, trivial⟩

namespace World.Books

variable {before middle after : World}

theorem of_unbilled (known : before.store.Knows context.changeId allowed)
    (quiet : (unbilled context.changeId).holds before after) :
    before.Books context [] after := by
  have still := (known.of_unbilled quiet).weaken
  obtain ⟨⟨usage, added, events, unaccepted⟩, -⟩ := quiet
  refine ⟨still, added, [], events, by simp [usage], ?_⟩
  rw [unaccepted]
  exact .nil

theorem after_unbilled (quiet : (unbilled context.changeId).holds before middle)
    (books : middle.Books context owed after) : before.Books context owed after := by
  obtain ⟨⟨usage, added, events, unaccepted⟩, -⟩ := quiet
  obtain ⟨known, more, used, moreEvents, moreUsage, booked⟩ := books
  refine ⟨known, added ++ more, used, by rw [moreEvents, events, List.append_assoc],
    by rw [moreUsage, usage], ?_⟩
  rw [Event.acceptedCalls_append, unaccepted]
  exact booked

theorem trans (one : before.Books context owed middle) (two : middle.Books context [] after) :
    before.Books context owed after := by
  obtain ⟨-, added, used, events, usage, booked⟩ := one
  obtain ⟨known, more, others, moreEvents, moreUsage, rest⟩ := two
  refine ⟨known, added ++ more, used ++ others, by rw [moreEvents, events, List.append_assoc],
    by rw [moreUsage, usage, List.append_assoc], ?_⟩
  rw [Event.acceptedCalls_append, ← List.append_assoc]
  exact List.rel_append booked rest

end World.Books

/-- Whether a run on a change that is allowed books what is owed and what it has accepted, unless a
breakdown stops it. -/
def Run.Books (context : CycleContext) (allowed : Change → Prop)
    (owed : List (Role × String × AgentAnswer)) (run : Run α) : Prop :=
  ∀ ⦃world result last⦄, run world = (result, last) →
    world.store.Knows context.changeId allowed →
      (∃ breakdown, result = .error (.breakdown breakdown)) ∨ world.Books context owed last

/-- Whether no failure can stop a run. -/
def Run.NeverFails (run : Run α) : Prop :=
  ∀ ⦃world last failure⦄, run world ≠ (.error (.failure failure), last)

namespace Run.Books

theorem of_unbilled {run : Run α} (quiet : Run.Guarantees (unbilled context.changeId) run) :
    Books context allowed [] run :=
  fun _ _ _ ran known => .inr (.of_unbilled known (quiet ran))

theorem weaken {wider : Change → Prop} {run : Run α} (books : Books context wider owed run)
    (implies : ∀ change, allowed change → wider change) : Books context allowed owed run := by
  rintro world result last ran ⟨change, found, allows⟩
  exact books ran ⟨change, found, implies change allows⟩

/-- What goes on may rely on what the first run leaves of the change. -/
theorem bind_knowing {first : Run α} {next : α → Run β} (later : α → Change → Prop)
    (one : Books context allowed owed first)
    (leaves : ∀ ⦃world value after⦄, first world = (.ok value, after) →
      world.store.Knows context.changeId allowed → after.store.Knows context.changeId (later value))
    (two : ∀ value, Books context (later value) [] (next value)) :
    Books context allowed owed (first >>= next) := by
  intro world result last ran known
  rcases Run.bind_cases ran with ⟨reason, stopped, rfl⟩ | ⟨value, after, begun, ended⟩
  · rcases one stopped known with ⟨breakdown, same⟩ | books
    · cases same
      exact .inl ⟨breakdown, rfl⟩
    · exact .inr books
  · rcases one begun known with ⟨breakdown, impossible⟩ | books
    · cases impossible
    · rcases two value ended (leaves begun known) with stopped | more
      · exact .inl stopped
      · exact .inr (books.trans more)

theorem bind {first : Run α} {next : α → Run β} (one : Books context allowed owed first)
    (two : ∀ value, Books context (fun _ => True) [] (next value)) :
    Books context allowed owed (first >>= next) := by
  refine bind_knowing (fun _ _ => True) one (fun world value after begun known => ?_) two
  rcases one begun known with ⟨breakdown, impossible⟩ | books
  · cases impossible
  · exact books.known

/-- What is owed may wait for a run that neither fails nor books anything. -/
theorem bind_steady {first : Run α} {next : α → Run β}
    (quiet : Run.Guarantees (unbilled context.changeId) first) (steady : first.NeverFails)
    (two : ∀ value, Books context allowed owed (next value)) :
    Books context allowed owed (first >>= next) := by
  intro world result last ran known
  rcases Run.bind_cases ran with ⟨failure | breakdown, stopped, rfl⟩ | ⟨value, after, begun, ended⟩
  · exact absurd stopped (@steady _ _ _)
  · exact .inl ⟨breakdown, rfl⟩
  · rcases two value ended (known.of_unbilled (quiet begun)) with stopped | books
    · exact .inl stopped
    · exact .inr (.after_unbilled (quiet begun) books)

theorem bind_unbilled {first : Run α} {next : α → Run β}
    (quiet : Run.Guarantees (unbilled context.changeId) first)
    (two : ∀ value, Books context allowed [] (next value)) :
    Books context allowed [] (first >>= next) := by
  intro world result last ran known
  rcases Run.bind_cases ran with ⟨reason, stopped, rfl⟩ | ⟨value, after, begun, ended⟩
  · exact .inr (.of_unbilled known (quiet stopped))
  · rcases two value ended (known.of_unbilled (quiet begun)) with stopped | books
    · exact .inl stopped
    · exact .inr (.after_unbilled (quiet begun) books)

theorem session {work : Session α}
    (books : work.Books context allowed (fun _ => True) owed) :
    Books context allowed owed (Run.session work) := by
  intro world result last ran known
  rcases Run.session_cases ran with ⟨reason, stopped, rfl, rfl⟩ | ⟨value, store, worked, rfl, rfl⟩
  · rcases books known with ⟨breakdown, same⟩ | ⟨_, _, _, impossible, -⟩
    · rw [stopped] at same
      cases same
      exact .inl ⟨breakdown, rfl⟩
    · rw [stopped] at impossible
      cases impossible
  · rcases books known with ⟨breakdown, impossible⟩ | ⟨_, _, used, same, known, usage, booked⟩
    · rw [worked] at impossible
      cases impossible
    · rw [worked] at same
      cases same
      refine .inr ⟨known, [], used, by simp, usage, ?_⟩
      rw [Event.acceptedCalls_nil, List.append_nil]
      exact booked

/-- The answer of a call is owed by what goes on with it. -/
theorem call {call : AgentCall} {other : CycleContext} {accept : Folder → AgentAnswer → Bool}
    {next : AgentAnswer → Run α}
    (two : ∀ answer, Books context allowed [(call.role, call.step, answer)] (next answer)) :
    Books context allowed [] (call.run other accept >>= next) := by
  intro world result last ran known
  rcases Run.bind_cases ran with ⟨reason, stopped, rfl⟩ | ⟨answer, after, answered, ended⟩
  · exact .inr (.of_unbilled known (AgentCall.run_unbilled stopped))
  · have store := AgentCall.store_run answered
    rcases two answer ended (by rw [store]; exact known) with stopped | books
    · exact .inl stopped
    · obtain ⟨known, more, used, moreEvents, usage, booked⟩ := books
      obtain ⟨added, events, accepted⟩ := AgentCall.events_run answered
      refine .inr ⟨known, added ++ more, used, by rw [moreEvents, events, List.append_assoc],
        by rw [usage, store], ?_⟩
      rw [Event.acceptedCalls_append, accepted]
      exact booked

/-- The frame of a step only shows and logs. -/
theorem runStep {name : String} {body : Run (StepEnd α)} (books : Books context allowed [] body) :
    Books context allowed [] (Cycle.runStep context name body) := by
  intro world result last ran known
  have begun : (unbilled context.changeId).holds world
      (world.logs (Cycle.stepEvent context name "started")) := (unbilled _).logs _ _
  rcases Cycle.runStep_cases ran with ⟨ending, after, went, rfl, rfl⟩ |
    ⟨failure, after, went, -, rfl, rfl⟩ | ⟨breakdown, -, -, -, -, rfl, -⟩
  · rcases books went known with ⟨_, impossible⟩ | booked
    · cases impossible
    · have logged := (unbilled context.changeId).logs after
        (Cycle.stepEvent context name "completed" ending.note?)
      exact .inr (.after_unbilled begun (booked.trans (.of_unbilled booked.known logged)))
  · rcases books went known with ⟨_, impossible⟩ | booked
    · cases impossible
    · have failed : (unbilled context.changeId).holds after
          (Cycle.afterFailure context name failure after) :=
        (unbilled _).trans ((unbilled _).line _ _) ((unbilled _).logs _ _)
      exact .inr (.after_unbilled begun (booked.trans (.of_unbilled booked.known failed)))
  · exact .inl ⟨breakdown, rfl⟩

end Run.Books

/-! ### What goes without a record -/

namespace Run.NeverFails

theorem warnAll (texts : List String) : NeverFails (Run.warnAll texts) := by
  intro world last failure ran
  rw [Run.warnAll_apply] at ran
  cases ran

theorem warnOfUsage (step : String) (answer : AgentAnswer) :
    NeverFails (PlanCycle.warnOfUsage step answer) := by
  intro world last failure ran
  rw [Cycle.warnOfUsage_apply] at ran
  cases ran

theorem showSelfReview (artifact : Artifact) (verdict : Verdict) :
    NeverFails (Cycle.showSelfReview artifact verdict) := by
  intro world last failure ran
  unfold Cycle.showSelfReview at ran
  split at ran
  · cases ran
  · cases ran
  · cases ran

theorem fillDocument (context : CycleContext) (artifact : Artifact) (answer : AgentAnswer) :
    NeverFails (Cycle.fillDocument context artifact answer) := by
  intro world last failure ran
  unfold Cycle.fillDocument Cycle.documents at ran
  rw [Run.bind_of_ok (Run.look_apply _ world)] at ran
  split at ran
  · rcases Cycle.putDocument_cases ran with ⟨_, -, -, impossible, -⟩ | ⟨_, -, -, impossible, -⟩ |
      ⟨_, impossible, -⟩
    · cases impossible
    · cases impossible
    · cases impossible
  · cases ran

end Run.NeverFails

section
variable {id : String}

open Run

theorem Run.changeFiles_unbilled (change : Folder → Except FileFault Folder) :
    Guarantees (unbilled id) (Run.changeFiles change) := by
  intro world result last ran
  unfold Run.changeFiles at ran
  split at ran
  · cases ran
    exact ⟨⟨rfl, [], by simp, rfl⟩, rfl⟩
  · cases ran
    exact (unbilled id).refl world

theorem Run.load_unbilled (other : String) :
    Guarantees (unbilled id) (Run.session (Session.load other)) := by
  intro world result last ran
  rcases Run.session_cases ran with ⟨_, _, _, rfl⟩ | ⟨_, _, loaded, _, rfl⟩
  · exact (unbilled id).refl _
  · obtain ⟨-, rfl⟩ := Session.load_ok_iff.1 loaded
    exact (unbilled id).refl _

theorem Run.runProcess_unbilled (spawn : ProcessResult → Spawn) :
    Guarantees (unbilled id) (Run.runProcess spawn) := by
  intro world result last ran
  obtain ⟨ending, -, store, -, events⟩ := Run.runProcess_cases ran
  exact ⟨⟨by rw [store], _, events, rfl⟩, by rw [store]⟩

theorem Cycle.fillDocument_unbilled (context : CycleContext) (artifact : Artifact)
    (answer : AgentAnswer) :
    Guarantees (unbilled id) (Cycle.fillDocument context artifact answer) := by
  refine .bind (.look _) fun after => ?_
  split
  · exact putDocument_guarantees (fun _ => Run.changeFiles_unbilled _) answer
  · exact .pure _

end

/-! ### The steps of a cycle -/

namespace Cycle

theorem writeDocument_books (context : CycleContext) (artifact : Artifact) :
    Run.Books context (fun _ => True) [] (writeDocument context artifact) := by
  rw [writeDocument_eq]
  refine .bind_unbilled (.say _) fun _ => .bind_unbilled (.look _) fun folder => ?_
  refine .bind_unbilled (.ofExcept _) fun prompt => .call fun answer => ?_
  refine .bind_steady (fillDocument_unbilled _ _ _) (.fillDocument _ _ _) fun _ => ?_
  refine .bind_steady (warnOfUsage_guarantees _ _) (.warnOfUsage _ _) fun _ => ?_
  refine .bind (.session ?_) fun _ => .of_unbilled (.say _)
  refine .bind (.recordUsage _ _ _) fun _ => .bind .load fun _ => ?_
  exact .bind (.keepSession _ _) fun _ => .keepAction _

theorem selfReview_books (context : CycleContext) (artifact : Artifact) :
    Run.Books context (fun _ => True) [] (selfReview context artifact) := by
  refine .bind_unbilled (.look _) fun folder => .call fun answer => ?_
  refine .bind_steady (.warnAll _) (.warnAll _) fun _ => ?_
  refine .bind_steady (showSelfReview_guarantees _ _) (.showSelfReview _ _) fun _ => ?_
  refine .bind_steady (warnOfUsage_guarantees _ _) (.warnOfUsage _ _) fun _ => .session ?_
  refine .bind (.recordUsage _ _ _) fun _ => .bind .load fun change => ?_
  exact .bind (.requireWhole answer) fun _ => .keepReview _ _ _ _

theorem generateMissing_books (context : CycleContext) (artifact : Artifact) :
    Run.Books context (fun _ => True) [] (generateMissing context artifact) := by
  refine .bind_unbilled (.look _) fun folder => ?_
  split
  · exact .of_unbilled (.say _)
  · refine .bind (writeDocument_books context artifact) fun _ => ?_
    split
    · exact selfReview_books context artifact
    · exact .of_unbilled (.pure _)

theorem generateAll_books (context : CycleContext) (artifacts : List Artifact) :
    Run.Books context (fun _ => True) [] (generateAll context artifacts) := by
  induction artifacts with
  | nil => exact .of_unbilled (.pure _)
  | cons artifact artifacts ih => exact .bind (generateMissing_books context artifact) fun _ => ih

theorem generateStep_books (context : CycleContext) :
    Run.Books context (fun _ => True) [] (generateStep context) := by
  refine .runStep (.bind (generateMissing_books context _) fun _ => ?_)
  refine .bind_unbilled (.look _) fun folder => .bind_unbilled (.ofFiles _) fun required => ?_
  exact .bind (generateAll_books context _) fun _ => .of_unbilled (.pure _)

theorem reviseStep_books (context : CycleContext) (iteration : Nat) (review : Review) :
    Run.Books context (fun _ => True) [] (reviseStep context iteration review) := by
  have indexing : Run.Guarantees (unbilled context.changeId) (conversationIndex context) := by
    refine .bind (Run.load_unbilled _) fun change => ?_
    split
    · exact .stop _
    · exact .bind (Run.runProcess_unbilled _) fun _ => .ofExcept _
  have revising : Run.Books context (fun _ => True) [] (revise context iteration review) := by
    unfold revise
    refine .bind_unbilled indexing fun index => .bind_unbilled (.say _) fun _ => ?_
    refine .bind_unbilled (.look _) fun folder => ?_
    split
    · exact .of_unbilled (.stop _)
    · refine .call fun answer => ?_
      refine .bind_steady (warnOfUsage_guarantees _ _) (.warnOfUsage _ _) fun _ => .session ?_
      refine .bind (.recordUsage _ _ _) fun _ => ?_
      exact .bind (.modify (fun _ => rfl) fun _ _ => trivial) fun _ => .keepAction _
  apply Run.Books.runStep
  split
  · exact .of_unbilled (.pure _)
  · exact .bind revising fun _ => .of_unbilled (.pure _)

/-- A critique of a proposed change is booked, whatever its verdict is. -/
theorem challengeStep_books (context : CycleContext) (iteration : Nat) :
    Run.Books context (·.phase = .proposed) [] (challengeStep context iteration) := by
  have criticising : Run.Books context (·.phase = .proposed) [] (critique context iteration) := by
    refine .bind_unbilled (.look _) fun folder => .bind_unbilled (.say _) fun _ => ?_
    refine .bind_unbilled (.ofFiles _) fun prompt => .call fun answer => ?_
    refine .bind_steady (.warnAll _) (.warnAll _) fun _ => ?_
    refine .bind_steady (warnOfUsage_guarantees _ _) (.warnOfUsage _ _) fun _ => ?_
    exact .bind (.session (.keepCritique _ _ _)) fun _ => .of_unbilled (.pure _)
  have applying (review : Review) :
      Run.Guarantees (unbilled context.changeId) (applyCritique context iteration review) := by
    unfold applyCritique
    split
    · exact .stop _
    · split
      · exact .stop _
      · refine .bind (Run.changeFiles_unbilled _) fun _ => ?_
        split
        · exact .bind (.say _) fun _ => .pure _
        · exact .bind (.say _) fun _ => .pure _
        · exact .bind (.say _) fun _ => .pure _
  exact .runStep (.bind criticising fun review => .of_unbilled (applying review))

/-- What goes aside from the critiques leaves the phase on record. -/
theorem knows_of_isAside {run : Run α} {phase : Phase} {world last : World}
    {result : Except Stop α} (goes : Run.IsAside context.changeId (fun _ => True) run)
    (ran : run world = (result, last))
    (known : world.store.Knows context.changeId (·.phase = phase)) :
    last.store.Knows context.changeId (·.phase = phase) := by
  rw [Store.knows_iff_standing] at known ⊢
  rw [(goes.aside ran).standing, known]

/-- Whether a change is as the critique of its plan lets it be: proposed if the plan is to be
revised. -/
def RemainsProposed (ending : StepEnd Review) (change : Change) : Prop :=
  ∀ review, ending = .done review → change.phase = .proposed

theorem challengeStep_remains {context : CycleContext} {iteration : Nat} {world last : World}
    {ending : StepEnd Review} (ran : challengeStep context iteration world = (.ok ending, last))
    (known : world.store.Knows context.changeId (·.phase = .proposed)) :
    last.store.Knows context.changeId (RemainsProposed ending) := by
  rcases challengeStep_books context iteration ran known with ⟨_, impossible⟩ | books
  · cases impossible
  obtain ⟨change, found, -⟩ := books.known
  refine ⟨change, found, ?_⟩
  rintro review rfl
  obtain ⟨-, standing⟩ := challengeStep_standsAt ran (Store.knows_iff_standing.1 known)
  have proposed := congrArg Prod.fst standing
  rw [Store.standing, found] at proposed
  exact Option.some.inj proposed

/-- Critiques and revisions in turn are booked: the plan that comes out of a revision is proposed
again. -/
theorem critiquesFrom_books (context : CycleContext) (iteration left : Nat) :
    Run.Books context (·.phase = .proposed) [] (critiquesFrom context iteration left) := by
  -- The invariant is the phase: only the verdict on a proposed plan can be applied for certain,
  -- and a verdict that failed to apply would take the record of its call with it.
  induction left generalizing iteration with
  | zero => exact .of_unbilled (.pure _)
  | succ left ih =>
      refine .bind_knowing RemainsProposed (challengeStep_books context iteration)
        (fun _ _ _ => challengeStep_remains) fun ending => ?_
      cases ending with
      | ended outcome => exact .of_unbilled (.pure _)
      | done review =>
          have revising := reviseStep_books context iteration review
          refine .weaken (.bind_knowing (fun _ => (·.phase = .proposed))
            (revising.weaken fun _ _ => trivial)
            (fun _ _ _ => knows_of_isAside (reviseStep_isAside trivial _ _ _)) fun ending => ?_)
            fun change remains => remains review rfl
          cases ending with
          | ended outcome => exact .of_unbilled (.pure _)
          | done _ => exact ih (iteration + 1)

theorem challengePlan_books (context : CycleContext) :
    Run.Books context (·.phase = .proposed) [] (challengePlan context) := by
  refine .bind_unbilled (validateStep_guarantees context) fun ending => ?_
  cases ending with
  | ended outcome => exact .of_unbilled (.pure _)
  | done _ => exact .bind (critiquesFrom_books context _ _) fun _ => .of_unbilled (.pure _)

theorem makePlan_books (context : CycleContext) :
    Run.Books context (·.phase = .proposed) [] (makePlan context) := by
  have writing := generateStep_books context
  refine .bind_knowing (fun _ => (·.phase = .proposed)) (writing.weaken fun _ _ => trivial)
    (fun _ _ _ => knows_of_isAside (generateStep_isAside trivial _)) fun ending => ?_
  cases ending with
  | ended outcome => exact .of_unbilled (.pure _)
  | done _ => exact challengePlan_books context

/-- A planning cycle on a change in its phase books what it asks of agents. -/
theorem runCycle_books (context : CycleContext) (phase : Phase) :
    Run.Books context (·.phase = phase) [] (runCycle context phase) := by
  have showing : Run.Books context (·.phase = phase) []
      (Run.say "[dim]All artifacts present; validating only[/dim]" >>= fun _ =>
        outcomeFromRecords context phase) :=
    .of_unbilled (.bind (.say _) fun _ => outcomeFromRecords_guarantees context phase)
  by_cases proposed : phase = .proposed
  · subst proposed
    refine .bind_unbilled (onlyValidates_guarantees context _) fun only => ?_
    cases only with
    | true => exact showing
    | false => exact makePlan_books context
  · unfold runCycle onlyValidates
    rw [if_pos proposed]
    exact showing

/-- A round of critiques on a change in its phase books what it asks of agents. -/
theorem runChallenge_books (context : CycleContext) (phase : Phase) :
    Run.Books context (·.phase = phase) [] (runChallenge context phase) := by
  unfold runChallenge
  split
  · rename_i proposed
    subst proposed
    exact challengePlan_books context
  · exact .of_unbilled (.pure _)

end Cycle

end

end PlanCycle
