/-
Module: PlanCycle.Proofs.Resumption
Purpose: Which conversations the calls of a run take up: a revision the one on record, by its index
  in a listing fetched for it, and every other call none; and what becomes of a run whose
  conversation cannot be found.
Main exports:
  Cycle.RevisesAt, Cycle.LooksInVain, Cycle.reviseStep_inVain, Cycle.critiquesFrom_converses,
  Project.ComesToRevision, Project.conversation?, Project.conversations_are_resumed_by_index,
  TwoTurns.last_critique_needs_no_conversation
-/
import PlanCycle.Proofs.Implementation
import PlanCycle.Proofs.PhaseOutcome
import PlanCycle.Proofs.StepLog

namespace PlanCycle

open Number

variable {α β : Type}

/-! ### The names of conversations -/

/-- A text that shows a character is not empty. -/
theorem ne_empty_of_toList {text : String} (shows : text.toList ≠ []) : text ≠ "" := by
  rintro rfl
  exact shows rfl

theorem intText_ne_empty (n : Int) : intText n ≠ "" := by
  have digits : (toString n.natAbs).toList ≠ [] := digitsOf_ne_nil n.natAbs
  apply ne_empty_of_toList
  unfold intText
  split
  · simp
  · exact digits

/-- A number is written with a point or with an exponent. -/
theorem floatText_ne_empty (x : Binary64) : x.text .plain ≠ "" := by
  have positional (digits : List Char) (point : Int) :
      Binary64.positionalText digits point ≠ [] := by
    unfold Binary64.positionalText
    split
    · simp
    · simp
  have scientific (digits : List Char) (point : Int) :
      Binary64.scientificText digits point ≠ [] := by
    simp [Binary64.scientificText]
  cases x with
  | nan => decide
  | infinite negative => cases negative <;> decide
  | finite negative mantissa exponent =>
      apply ne_empty_of_toList
      unfold Binary64.text
      dsimp only
      rw [String.toList_ofList]
      refine List.append_ne_nil_of_right_ne_nil _ ?_
      split
      · exact positional _ _
      · exact scientific _ _

/-- A conversation that is kept has a name. -/
theorem Cycle.sessionText_ne_empty {id : Json} {conversation : String}
    (present : id.isPresent = true) (text : sessionText id = .ok conversation) :
    conversation ≠ "" := by
  cases id with
  | null => cases text
  | bool value =>
      cases value with
      | true =>
          cases text
          decide
      | false => cases text
  | int n =>
      simp only [sessionText] at text
      split at text
      · cases text
        exact intText_ne_empty n
      · cases text
  | float x =>
      cases text
      exact floatText_ne_empty x
  | string name =>
      cases text
      rintro rfl
      cases present
  | halved shown => cases text
  | array items => cases text
  | object fields => cases text

theorem Event.NamesConversation.ne_empty {events : List Event} {conversation : String}
    (names : NamesConversation events conversation) : conversation ≠ "" := by
  obtain ⟨answer, -, present, text⟩ := names
  exact Cycle.sessionText_ne_empty present text

namespace Cycle

/-! ### Revisions that are due -/

/-- Whether critiques and revisions in turn, from one iteration on in a world, come to a revision:
the critique of this number wants changes and gave this review, and this is the world then. -/
inductive RevisesAt (context : CycleContext) : Nat → World → Nat → Review → World → Prop
  | now {iteration : Nat} {world due : World} {review : Review}
      (challenged : challengeStep context iteration world = (.ok (.done review), due)) :
      RevisesAt context iteration world iteration review due
  | later {iteration number : Nat} {world criticised revised due : World} {first review : Review}
      (challenged : challengeStep context iteration world = (.ok (.done first), criticised))
      (begun : reviseStep context iteration first criticised = (.ok (.done ()), revised))
      (rest : RevisesAt context (iteration + 1) revised number review due) :
      RevisesAt context iteration world number review due

/-- Whether the conversation of a revision is not found, and why: none is on record, or
the listing that is fetched then does not give its index. -/
inductive LooksInVain (context : CycleContext) (due : World) : SessionFailure → Prop
  | unrecorded (nameless : (due.store.conversation? context.changeId).filter (· != "") = none) :
      LooksInVain context due .unrecorded
  | unlisted {conversation : String} {result : ProcessResult} {failure : SessionFailure}
      (known : due.store.conversation? context.changeId = some conversation)
      (named : conversation ≠ "")
      (fetched : (Run.runProcess (context.lister.spawn context.root) due).1 = .ok result)
      (refused : context.lister.resolve result conversation =
        .error (.failure (.session failure))) :
      LooksInVain context due failure

/-- What a planning run comes to at a revision whose conversation is not found: that failure, or
nothing new if its critique was the last one that the policy allows. -/
def vainOutcome (context : CycleContext) (number : Nat) (review : Review)
    (failure : SessionFailure) : CycleOutcome :=
  if (number : Int) < context.policy.planningIterations then
    .error .session "revise" failure.message
  else .exhausted review.issues.length

/-- Whether a planning run can end so at a revision whose conversation is not found.  A failure that
cannot be reported breaks it down. -/
def EndsInVain (context : CycleContext) (number : Nat) (review : Review) (failure : SessionFailure)
    (result : Except Stop CycleOutcome) : Prop :=
  result = .ok (vainOutcome context number review failure) ∨
    (number < context.policy.planningIterations ∧ ¬CanReport context "revise" (.session failure)) ∧
      ∃ breakdown, result = .error (.breakdown breakdown)

section
variable {context : CycleContext} {iteration number : Nat} {review : Review}
variable {world due last : World} {result : Except Stop CycleOutcome}

/-- Who plans a proposed change proposes it still when its revision is due. -/
theorem RevisesAt.proposed (revises : RevisesAt context iteration world number review due)
    (proposed : (world.store.standing context.changeId).1 = some .proposed) :
    (due.store.standing context.changeId).1 = some .proposed := by
  induction revises with
  | now challenged => exact challengeStep_phase challenged proposed
  | @later iteration _ _ _ _ _ first _ challenged begun _ ih =>
      have revising : Run.IsAside context.changeId (fun _ => True)
          (reviseStep context iteration first) := reviseStep_isAside trivial context _ _
      refine ih ((congrArg Prod.fst (revising.aside begun).standing).trans ?_)
      exact challengeStep_phase challenged proposed

/-- A look for a conversation that is not found fails, and leaves the records as they are. -/
theorem conversationIndex_inVain {failure : SessionFailure}
    (vain : LooksInVain context due failure)
    (proposed : (due.store.standing context.changeId).1 = some .proposed) :
    ∃ after, conversationIndex context due = (.error (.failure (.session failure)), after) ∧
      after.store = due.store ∧
      ∃ shown, after.events = due.events ++ shown ∧ ∀ call files, .asked call files ∉ shown := by
  obtain ⟨change, found, -⟩ := Option.map_eq_some_iff.mp proposed
  have loaded : Run.session (Session.load context.changeId) due = (.ok change, due) :=
    Run.session_of_ok (Session.load_ok_iff.2 ⟨found, rfl⟩)
  have recorded : due.store.conversation? context.changeId = change.sessionId := by
    rw [Store.conversation?, found]
    rfl
  unfold conversationIndex
  rw [Run.bind_of_ok loaded]
  cases vain with
  | unrecorded nameless =>
      rw [recorded] at nameless
      rw [nameless]
      exact ⟨due, rfl, rfl, [], (List.append_nil _).symm, by simp⟩
  | @unlisted conversation result _ known named fetched refused =>
      have some_name : change.sessionId.filter (· != "") = some conversation := by
        rw [← recorded, known]
        simp [named]
      rw [some_name]
      rcases ran : Run.runProcess (context.lister.spawn context.root) due with ⟨given, after⟩
      rw [ran] at fetched
      dsimp only at fetched
      subst fetched
      obtain ⟨ending, -, store, -, events⟩ := Run.runProcess_cases ran
      refine ⟨after, ?_, store, _, events, by simp⟩
      refine (Run.bind_of_ok ran).trans ?_
      rw [Run.ofExcept_apply, refused]

/-- What is logged before a look does not help it. -/
theorem LooksInVain.logs {context : CycleContext} {due : World} {failure : SessionFailure}
    (vain : LooksInVain context due failure) (entry : LogEntry) :
    LooksInVain context (due.logs entry) failure := by
  cases vain with
  | unrecorded nameless => exact .unrecorded nameless
  | unlisted known named fetched refused =>
      refine .unlisted known named ?_ refused
      rw [← fetched]
      unfold Run.runProcess
      rw [World.processes_logs]
      cases due.processes.scripts with
      | nil => rfl
      | cons script scripts => rfl

/-- A revision whose conversation is not found asks nobody, changes no record and ends the cycle. -/
theorem reviseStep_inVain {failure : SessionFailure} (vain : LooksInVain context due failure)
    (proposed : (due.store.standing context.changeId).1 = some .proposed) (review : Review) :
    ∃ result after, EndsInVain context number review failure result ∧
      reviseStep context number review due = (result.map .ended, after) ∧
      after.store.find? context.changeId = due.store.find? context.changeId ∧
      ∃ shown, after.events = due.events ++ shown ∧ ∀ call files, .asked call files ∉ shown := by
  by_cases allowed : (number : Int) < context.policy.planningIterations
  case neg =>
    -- The budget is spent, and the conversation is not even looked for.
    have spent : context.policy.planningIterations ≤ number := by omega
    have same : vainOutcome context number review failure = .exhausted review.issues.length :=
      if_neg allowed
    have stepped : reviseStep context number review due = _ := reviseStep_of_spent spent
    rw [← same] at stepped
    exact ⟨_, _, .inl rfl, stepped, rfl, [], (List.append_nil _).symm, by simp⟩
  obtain ⟨after, looked, store, shown, events, unasked⟩ :=
    conversationIndex_inVain (vain.logs (stepEvent context "revise" "started")) proposed
  have kept : after.store.find? context.changeId = due.store.find? context.changeId := by
    rw [store]
    rfl
  -- What is shown after the look is lines, whether the failure can be reported or not.
  have traced {lines : List Event} (areLines : AreLines lines) :
      after.events ++ lines = due.events ++ (shown ++ lines) ∧
        ∀ call files, .asked call files ∉ shown ++ lines := by
    refine ⟨by rw [events, World.events_logs, List.append_assoc], fun call files member => ?_⟩
    rcases List.mem_append.mp member with before | line
    · exact unasked call files before
    · obtain ⟨text, impossible⟩ := areLines _ line
      cases impossible
  have body : (if context.policy.planningIterations ≤ number then
        return .ended (.exhausted review.issues.length)
      else do
        revise context number review
        return .done () : Run (StepEnd Unit)) (due.logs (stepEvent context "revise" "started")) =
      (.error (.failure (.session failure)), after) := by
    rw [if_neg (by omega)]
    unfold revise
    exact Run.bind_of_error (Run.bind_of_error looked)
  by_cases can : CanReport context "revise" (.session failure)
  · have told : vainOutcome context number review failure =
        .ofFailure "revise" (.session failure) := if_pos allowed
    refine ⟨_, afterFailure context "revise" (.session failure) after, .inl rfl, ?_, kept, _,
      traced (areLines_singleton _)⟩
    rw [told]
    exact runStep_of_failure can body
  · obtain ⟨breakdown, lines, areLines, broken⟩ := runStep_of_unreported can body
    exact ⟨_, after.shows lines, .inr ⟨⟨allowed, can⟩, breakdown, rfl⟩, broken, kept, _,
      traced areLines⟩

/-- Critiques and revisions in turn end with the revision that ends them. -/
theorem RevisesAt.critiquesFrom {left : Nat}
    (revises : RevisesAt context iteration world number review due)
    (budget : context.policy.planningIterations < iteration + left) (some_left : left ≠ 0)
    (ended : reviseStep context number review due = (result.map .ended, last)) :
    Cycle.critiquesFrom context iteration left world = (result.map some, last) := by
  induction revises generalizing left with
  | now challenged =>
      obtain ⟨left, rfl⟩ := Nat.exists_eq_succ_of_ne_zero some_left
      unfold Cycle.critiquesFrom
      refine (Run.bind_of_ok challenged).trans ?_
      cases result with
      | error reason => exact Run.bind_of_error ended
      | ok outcome => exact Run.bind_of_ok ended
  | @later iteration _ _ _ _ _ _ _ challenged begun _ ih =>
      obtain ⟨left, rfl⟩ := Nat.exists_eq_succ_of_ne_zero some_left
      unfold Cycle.critiquesFrom
      refine (Run.bind_of_ok challenged).trans ?_
      refine (Run.bind_of_ok begun).trans ?_
      -- A revision that is made is not the last one that the budget allows.
      have allowed : (iteration : Int) < context.policy.planningIterations := by
        rcases reviseStep_cases begun with ⟨-, allowed⟩ | ⟨impossible, -⟩ | ⟨_, impossible⟩
        · exact allowed
        · cases impossible
        · cases impossible
      exact ih (by push_cast at budget ⊢; omega) (by push_cast at budget; omega) ended

/-! ### What planning runs ask -/

/-- Whether a call may be made: it starts anew, or it is that of a revision that the run comes to,
in the conversation on record. -/
def MayAsk (context : CycleContext) (isDue : Nat → Review → World → Prop) (earlier : List Event)
    (call : AgentCall) : Prop :=
  call.StartsAnew ∨
    ∃ number review due, isDue number review due ∧ TakesUp context number due earlier call

theorem MayAsk.mono {isDue other : Nat → Review → World → Prop} {earlier : List Event}
    {call : AgentCall} (may : MayAsk context isDue earlier call)
    (enough : ∀ number review due, isDue number review due → other number review due) :
    MayAsk context other earlier call := by
  rcases may with anew | ⟨number, review, due, isDue, takes⟩
  · exact .inl anew
  · exact .inr ⟨number, review, due, enough _ _ _ isDue, takes⟩

theorem critiquesFrom_converses {left : Nat} {result : Except Stop (Option CycleOutcome)}
    (ran : critiquesFrom context iteration left world = (result, last)) :
    world.Converses context.changeId (MayAsk context (RevisesAt context iteration world)) last := by
  induction left generalizing iteration world with
  | zero =>
      cases ran
      exact .refl _
  | succ left ih =>
      have challenging {result : Except Stop (StepEnd Review)} {after : World}
          (challenged : challengeStep context iteration world = (result, after)) :
          world.Converses context.changeId (MayAsk context (RevisesAt context iteration world))
            after :=
        (challengeStep_frames (fun _ _ => .inl) context iteration).converses
          (fun works => works.converses) challenged
      unfold critiquesFrom at ran
      rcases Run.bind_cases ran with ⟨_, stopped, -⟩ | ⟨ending, criticised, challenged, ran⟩
      · exact challenging stopped
      refine (challenging challenged).trans ?_
      cases ending with
      | ended outcome =>
          cases ran
          exact .refl _
      | done review =>
          have frames : Frames context "revise" (fun world => world.Works context.changeId
              (TakesUp context iteration world)) (reviseStep context iteration review) :=
            reviseStep_frames context iteration review
          have revising {result : Except Stop (StepEnd Unit)} {after : World}
              (begun : reviseStep context iteration review criticised = (result, after)) :
              criticised.Converses context.changeId
                (MayAsk context (RevisesAt context iteration world)) after :=
            frames.converses (fun works => works.converses.mono fun _ _ takes =>
              .inr ⟨iteration, review, criticised, .now challenged, takes⟩) begun
          rcases Run.bind_cases ran with ⟨_, stopped, -⟩ | ⟨ending, revised, begun, ran⟩
          · exact revising stopped
          refine (revising begun).trans ?_
          cases ending with
          | ended outcome =>
              cases ran
              exact .refl _
          | done _ =>
              refine (ih ran).mono fun _ _ may => may.mono fun _ _ _ revises => ?_
              exact .later challenged begun revises

/-- Whether a run from a world on comes to a revision: once its documents are checked, and if the
policy allows critiques. -/
def ChecksAndRevises (context : CycleContext) (world : World) (number : Nat) (review : Review)
    (due : World) : Prop :=
  ∃ checked, validateStep context world = (.ok (.done ()), checked) ∧
    1 ≤ context.policy.planningIterations ∧ RevisesAt context 1 checked number review due

theorem challengePlan_converses {result : Except Stop CycleOutcome}
    (ran : challengePlan context world = (result, last)) :
    world.Converses context.changeId (MayAsk context (ChecksAndRevises context world)) last := by
  have checking {result : Except Stop (StepEnd Unit)} {after : World}
      (checked : validateStep context world = (result, after)) :
      world.Converses context.changeId (MayAsk context (ChecksAndRevises context world)) after :=
    (validateStep_frames context).converses (fun works => works.converses) checked
  unfold challengePlan at ran
  rcases Run.bind_cases ran with ⟨_, stopped, -⟩ | ⟨ending, checked, validated, ran⟩
  · exact checking stopped
  refine (checking validated).trans ?_
  cases ending with
  | ended outcome =>
      cases ran
      exact .refl _
  | done _ =>
      have round {result : Except Stop (Option CycleOutcome)} {after : World}
          (went : critiquesFrom context 1 context.policy.planningIterations.toNat checked =
            (result, after)) :
          checked.Converses context.changeId (MayAsk context (ChecksAndRevises context world))
            after := by
        by_cases enough : 1 ≤ context.policy.planningIterations
        · refine (critiquesFrom_converses went).mono fun _ _ may => may.mono fun _ _ _ revises => ?_
          exact ⟨checked, validated, enough, revises⟩
        · rw [show context.policy.planningIterations.toNat = 0 by omega] at went
          cases went
          exact .refl _
      unfold critiqueRound at ran
      rcases Run.bind_cases ran with ⟨_, stopped, -⟩ | ⟨_, after, went, ended⟩
      · exact round stopped
      · cases ended
        exact round went

/-- Whether a run from a world on comes to a revision once its missing documents are written. -/
def WritesAndRevises (context : CycleContext) (world : World) (number : Nat) (review : Review)
    (due : World) : Prop :=
  isWritten (context.folder world) = .ok false ∧
    ∃ written, generateStep context world = (.ok (.done ()), written) ∧
      ChecksAndRevises context written number review due

theorem makePlan_converses {result : Except Stop CycleOutcome}
    (unwritten : isWritten (context.folder world) = .ok false)
    (ran : makePlan context world = (result, last)) :
    world.Converses context.changeId (MayAsk context (WritesAndRevises context world)) last := by
  have writing {result : Except Stop (StepEnd Unit)} {after : World}
      (written : generateStep context world = (result, after)) :
      world.Converses context.changeId (MayAsk context (WritesAndRevises context world)) after :=
    (generateStep_frames (fun _ _ => .inl) context).converses (fun works => works.converses) written
  unfold makePlan at ran
  rcases Run.bind_cases ran with ⟨_, stopped, -⟩ | ⟨ending, written, generated, ran⟩
  · exact writing stopped
  refine (writing generated).trans ?_
  cases ending with
  | ended outcome =>
      cases ran
      exact .refl _
  | done _ =>
      refine (challengePlan_converses ran).mono fun _ _ may => may.mono fun _ _ _ revises => ?_
      exact ⟨unwritten, written, generated, revises⟩

/-- A cycle on a proposed change whose plan is not all written makes the plan. -/
theorem runCycle_of_unwritten (unwritten : isWritten (context.folder world) = .ok false) :
    runCycle context .proposed world = makePlan context world := by
  have only : onlyValidates context .proposed world = (.ok false, world) := by
    rw [onlyValidates_apply, unwritten]
    rfl
  unfold runCycle
  rw [Run.bind_of_ok only]
  rfl

theorem runCycle_converses {phase : Phase} {result : Except Stop CycleOutcome}
    (ran : runCycle context phase world = (result, last)) :
    world.Converses context.changeId (MayAsk context fun number review due =>
      phase = .proposed ∧ WritesAndRevises context world number review due) last := by
  by_cases validates : Validates phase (context.folder world)
  · rw [runCycle_of_validates validates] at ran
    have shown : world.Unchanged (world.shows [validatingLine]) :=
      .shows (by simp [validatingLine, Event.IsShown])
    have reading := (outcomeFromRecords_isReadOnly context phase).unchanged ran
    exact (World.Works.of_unchanged (shown.trans reading)).converses
  · obtain ⟨proposed, unwritten⟩ := not_or.mp validates
    rw [not_not] at proposed
    subst proposed
    cases found : isWritten (context.folder world) with
    | error fault =>
        rw [runCycle, Run.bind_of_error (by rw [onlyValidates_apply, found]; rfl)] at ran
        cases ran
        exact .refl _
    | ok written =>
        have missing : written = false :=
          Bool.eq_false_iff.mpr fun done => unwritten (isWritten_iff.1 (done ▸ found))
        subst missing
        rw [runCycle_of_unwritten found] at ran
        exact (makePlan_converses found ran).mono fun _ _ may => may.mono fun _ _ _ revises =>
          ⟨rfl, revises⟩

/-- A check and a round that come to a revision whose conversation is not found end there. -/
theorem challengePlan_inVain {failure : SessionFailure}
    (revises : ChecksAndRevises context world number review due)
    (vain : LooksInVain context due failure)
    (proposed : (world.store.standing context.changeId).1 = some .proposed) :
    ∃ result last, EndsInVain context number review failure result ∧
      challengePlan context world = (result, last) ∧
      last.store.find? context.changeId = due.store.find? context.changeId ∧
      ∃ shown, last.events = due.events ++ shown ∧ ∀ call files, .asked call files ∉ shown := by
  obtain ⟨checked, validated, enough, revises⟩ := revises
  have checking : Run.IsAside context.changeId (fun _ => True) (validateStep context) :=
    validateStep_isAside context
  have still := (congrArg Prod.fst (checking.aside validated).standing).trans proposed
  obtain ⟨result, last, ends, ended, same, shown, events, unasked⟩ :=
    reviseStep_inVain vain (revises.proposed still) review
  refine ⟨result, last, ends, ?_, same, shown, events, unasked⟩
  have went : critiquesFrom context 1 context.policy.planningIterations.toNat checked = _ :=
    revises.critiquesFrom (by omega) (by omega) ended
  unfold challengePlan
  refine (Run.bind_of_ok validated).trans ?_
  cases result with
  | error reason => exact Run.bind_of_error went
  | ok outcome => exact Run.bind_of_ok went

end

end Cycle

/-! ### Implementations -/

/-- What agents are asked and what becomes of a conversation is a guarantee. -/
def Guarantee.conversing (id : String) (may : List Event → AgentCall → Prop) : Guarantee where
  holds := World.Converses id may
  refl := .refl
  trans := .trans
  line _ _ := .of_unasked rfl rfl (by simp)
  warning _ _ := .of_unasked rfl rfl (by simp)
  logs _ _ := .logs

/-- The sessions after which the conversation of a change is what it was. -/
def Session.KeepsConversation (id : String) (work : Session α) : Prop :=
  ∀ ⦃store value last⦄, work store = .ok (value, last) →
    last.conversation? id = store.conversation? id

namespace Session.KeepsConversation

variable {id : String}

theorem of_isSilent {work : Session α} (silent : work.IsSilent id) : KeepsConversation id work :=
  fun _ _ _ worked => (silent worked).2

theorem bind {first : Session α} {next : α → Session β} (one : KeepsConversation id first)
    (two : ∀ value, KeepsConversation id (next value)) : KeepsConversation id (first >>= next) := by
  intro store value last worked
  obtain ⟨between, after, begun, ended⟩ := Session.bind_ok_iff.1 worked
  exact (two between ended).trans (one begun)

theorem logEvent {entry : LogEntry} (untimed : entry.durationMs = none) :
    KeepsConversation id (Session.logEvent entry) := by
  intro store row last worked
  obtain ⟨-, rfl⟩ := (Session.logEvent_ok_iff untimed).1 worked
  rfl

end Session.KeepsConversation

namespace Lifecycle

open Run

variable {id : String} {may : List Event → AgentCall → Prop}

theorem keepProgress_keepsConversation (graph : TaskGraph) :
    (keepProgress id graph).KeepsConversation id := by
  have noted : (noteProgress id graph).KeepsConversation id :=
    .bind (.of_isSilent (.modify (fun _ => rfl) fun _ => rfl)) fun _ =>
      .bind (.logEvent rfl) fun _ => .of_isSilent (.pure _)
  refine keepProgress_of (fun _ work => work.KeepsConversation id) .bind
    (.of_isSilent (.load id)) (fun target _ => ?_) noted
  refine .of_isSilent (.advance fun change moved stepped => ?_)
  obtain ⟨-, rfl⟩ := Change.moveTo_ok_iff.1 stepped
  exact ⟨rfl, rfl⟩

/-- An implementation asks what starts anew, and leaves the conversation of the change alone. -/
theorem implement_converses (anew : ∀ earlier call, call.StartsAnew → may earlier call)
    {context : CycleContext} {implementer : Run CycleContext}
    (finding : Guarantees (.conversing context.changeId may) implementer) :
    Guarantees (.conversing context.changeId may) (implement context implementer) := by
  have session {α : Type} {work : Session α} (keeps : work.KeepsConversation context.changeId) :
      Guarantees (.conversing context.changeId may) (Run.session work) := by
    intro world result last ran
    rcases Run.session_cases ran with ⟨_, _, _, rfl⟩ | ⟨_, store, worked, _, rfl⟩
    · exact .refl _
    · exact .of_unasked (keeps worked) (List.append_nil _).symm (by simp)
  have asking (found : CycleContext) (pending : List String) :
      Guarantees (.conversing context.changeId may) (implementTasks found pending) := by
    refine .bind (.look _) fun folder => .bind (.ofFiles _) fun prompt => .bind ?_ fun answer => ?_
    · intro world result last ran
      refine (Works.call (fun earlier => anew _ _ ?_) ran).converses
      exact .of_head (c := 'i') rfl (by simp) (by decide)
    · refine .bind (Cycle.warnOfUsage_guarantees _ _) fun _ => session (.of_isSilent ?_)
      exact .bind (.recordUsage _ _ _) fun _ => .pure _
  have finishing : Guarantees (.conversing context.changeId may) (finish context) := by
    refine .bind (taskGraph_guarantees context) fun graph => ?_
    refine .bind (session (keepProgress_keepsConversation graph)) fun _ => ?_
    exact .bind (.say _) fun _ => status_guarantees _ _
  rw [implement_eq]
  refine .bind (session (.of_isSilent (.load _))) fun change => ?_
  split
  · exact .stop _
  refine .bind (taskGraph_guarantees context) fun graph => ?_
  split
  · exact .bind (.say _) fun _ => finishing
  · refine .bind (.say _) fun _ => .bind finding fun found => ?_
    exact .bind (asking found _) fun _ => finishing

end Lifecycle

/-! ### Runs on a change -/

namespace Project

open PlanCycle.Cycle

variable {project : Project} {root : Path} {id : String} {means : Means}

/-- The conversation of a change, if one is on record. -/
def conversation? (project : Project) (root : Path) (id : String) : Option String :=
  (project.records root id).bind (·.conversation? id)

/-- Whether a planning run comes to the revision after a critique, of this number and with this
review, in a world. -/
def ComesToRevision (project : Project) (root : Path) (id : String) (means : Means)
    (report : Report CycleOutcome) (context : CycleContext) (number : Nat) (review : Review)
    (due : World) : Prop :=
  ∃ store ready, project.records root id = some store ∧
    project.prepare root id means (project.start root id means store) =
      (.ok (context, .proposed), ready) ∧
    (report = project.challenge root id means ∧ ChecksAndRevises context ready number review due ∨
      report = project.cycle root id means ∧ isWritten (project.documents root id) = .ok false ∧
        ∃ written, generateStep context ready = (.ok (.done ()), written) ∧
          ChecksAndRevises context written number review due)

/-- Whether a run on a change left its conversation as it was, or gave it the one that the author of
an accepted proposal named. -/
def KeepsOrLearns (project : Project) (root : Path) (id : String) (after : Project)
    (events : List Event) : Prop :=
  after.conversation? root id = project.conversation? root id ∨
    ∃ conversation, after.conversation? root id = some conversation ∧ conversation ≠ "" ∧
      Event.NamesConversation events conversation

/-- A run that converses as it may from where it starts does so in its project. -/
theorem within_converses {run : Run α} {may : List Event → AgentCall → Prop}
    (converses : ∀ {store result last}, project.records root id = some store →
      run (project.start root id means store) = (result, last) →
      (project.start root id means store).Converses id may last) :
    let report := project.within root id means fun _ => run
    Event.AsksAsAllowed may [] report.events ∧
      KeepsOrLearns project root id report.project report.events := by
  cases recorded : project.records root id with
  | none =>
      rw [within_of_unrecorded recorded]
      exact ⟨.of_unasked (by simp), .inl rfl⟩
  | some store =>
      rcases ran : run (project.start root id means store) with ⟨result, last⟩
      rw [within_of_recorded recorded ran]
      obtain ⟨⟨added, events, asks⟩, known⟩ := converses recorded ran
      have kept : (project.setState (project.place root id)
          { files := last.files, store := some last.store }).conversation? root id =
            last.store.conversation? id := by
        rw [conversation?, records, place_setState, state_setState]
        rfl
      have before : project.conversation? root id = store.conversation? id := by
        rw [conversation?, recorded]
        rfl
      have all : last.events = added := events
      refine ⟨all ▸ asks, ?_⟩
      unfold KeepsOrLearns
      rw [kept, before]
      refine known.imp_right ?_
      rintro ⟨conversation, named, names⟩
      exact ⟨conversation, named, names.ne_empty, names⟩

/-- The calls that a planning run may make: those that start anew, and those of the revisions that
it comes to. -/
def MayAskIn (project : Project) (root : Path) (id : String) (means : Means)
    (report : Report CycleOutcome) (earlier : List Event) (call : AgentCall) : Prop :=
  call.StartsAnew ∨ ∃ context number review due,
    project.ComesToRevision root id means report context number review due ∧
      TakesUp context number due earlier call

/-- A planning run converses as its body does once the cycle is ready. -/
theorem onceReady_converses {body : CycleContext → Phase → Run α}
    {may : List Event → AgentCall → Prop}
    (converses : ∀ {store context phase ready result last},
      project.records root id = some store →
      project.prepare root id means (project.start root id means store) =
        (.ok (context, phase), ready) →
      body context phase ready = (result, last) → ready.Converses id may last) :
    let report := project.within root id means fun _ => project.onceReady root id means body
    Event.AsksAsAllowed may [] report.events ∧
      project.KeepsOrLearns root id report.project report.events := by
  refine within_converses fun {store result last} recorded ran => ?_
  have preparing := prepare_isReadOnly project root id means
  have quiet {result : Except Stop (CycleContext × Phase)} {after : World}
      (prepared : project.prepare root id means (project.start root id means store) =
        (result, after)) : (project.start root id means store).Converses id may after :=
    (World.Works.of_unchanged (preparing.unchanged prepared)).converses
  rcases Run.bind_cases ran with ⟨_, stopped, -⟩ | ⟨⟨context, phase⟩, ready, prepared, went⟩
  · exact quiet stopped
  · exact (quiet prepared).trans (converses recorded prepared went)

theorem challenge_converses (project : Project) (root : Path) (id : String) (means : Means) :
    let report := project.challenge root id means
    Event.AsksAsAllowed (project.MayAskIn root id means report) [] report.events ∧
      project.KeepsOrLearns root id report.project report.events := by
  refine onceReady_converses
    fun {store context phase ready result last} recorded prepared went => ?_
  obtain ⟨rfl, -⟩ := prepare_start recorded prepared
  unfold runChallenge at went
  split at went
  · rename_i proposed
    subst proposed
    refine (challengePlan_converses went).mono fun _ _ may => may.imp_right ?_
    rintro ⟨number, review, due, revises, takes⟩
    exact ⟨context, number, review, due, ⟨store, ready, recorded, prepared, .inl ⟨rfl, revises⟩⟩,
      takes⟩
  · cases went
    exact .refl _

theorem cycle_converses (project : Project) (root : Path) (id : String) (means : Means) :
    let report := project.cycle root id means
    Event.AsksAsAllowed (project.MayAskIn root id means report) [] report.events ∧
      project.KeepsOrLearns root id report.project report.events := by
  refine onceReady_converses
    fun {store context phase ready result last} recorded prepared went => ?_
  obtain ⟨rfl, -, -, folder, -⟩ := prepare_start recorded prepared
  refine (runCycle_converses went).mono fun _ _ may => may.imp_right ?_
  rintro ⟨number, review, due, ⟨rfl, unwritten, revises⟩, takes⟩
  rw [folder] at unwritten
  exact ⟨context, number, review, due, ⟨store, ready, recorded, prepared,
    .inr ⟨rfl, unwritten, revises⟩⟩, takes⟩

theorem implement_converses (project : Project) (root : Path) (id : String) (means : Means) :
    let report := project.implement root id means
    Event.AsksAsAllowed (fun _ call => call.StartsAnew) [] report.events ∧
      project.KeepsOrLearns root id report.project report.events := by
  let context := project.implementContext root id means
  let law : Guarantee := .conversing id fun _ call => call.StartsAnew
  have kept {run : Run Unit}
      (same : ∀ world, ∃ agents, run world = (.ok (), { world with agents })) :
      Run.Guarantees law run := by
    intro world result last ran
    obtain ⟨agents, whole⟩ := same world
    rw [whole] at ran
    cases ran
    exact .of_unasked rfl (List.append_nil _).symm (by simp)
  have finding : Run.Guarantees law (project.findImplementer means context) := by
    unfold findImplementer
    split
    · exact .pure _
    · exact .bind (.ofExcept _) fun setup => .bind (kept fun _ => ⟨_, rfl⟩) fun _ => .pure _
  have converses : Run.Guarantees law (do
      (means.cast.getD .unassigned).engage
      Lifecycle.implement context (project.findImplementer means context)) :=
    .bind (kept fun _ => ⟨_, rfl⟩) fun _ =>
      Lifecycle.implement_converses (fun _ _ anew => anew) finding
  exact within_converses fun _ ran => converses ran

/-- A planning run that looks in vain for the conversation of a revision ends there. -/
theorem ComesToRevision.inVain {report : Report CycleOutcome} {context : CycleContext}
    {number : Nat} {review : Review} {due : World} {failure : SessionFailure}
    (comes : project.ComesToRevision root id means report context number review due)
    (vain : LooksInVain context due failure) :
    EndsInVain context number review failure report.result ∧
    report.project.change? root id = due.store.find? id ∧
    ∃ shown, report.events = due.events ++ shown ∧ ∀ call files, .asked call files ∉ shown := by
  obtain ⟨store, ready, recorded, prepared, ran⟩ := comes
  obtain ⟨about, current⟩ := prepare_current prepared
  rw [← about] at current
  have ends (body : CycleContext → Phase → Run CycleOutcome) {result : Except Stop CycleOutcome}
      {last : World} (went : body context .proposed ready = (result, last))
      (same : last.store.find? context.changeId = due.store.find? context.changeId) :
      let report := project.within root id means fun _ => project.onceReady root id means body
      report.result = result ∧ report.project.change? root id = due.store.find? id ∧
        report.events = last.events := by
    rw [within_onceReady recorded prepared went]
    exact ⟨rfl, (change?_setState _ _ _).trans (about ▸ same), rfl⟩
  obtain ⟨rfl, revises⟩ | ⟨rfl, unwritten, written, generated, revises⟩ := ran
  · obtain ⟨result, last, vainly, went, same, shown, events, unasked⟩ :=
      challengePlan_inVain revises vain current
    obtain ⟨gave, kept, traced⟩ := ends runChallenge went same
    exact ⟨gave ▸ vainly, kept, shown, traced.trans events, unasked⟩
  · have writing : Run.IsAside context.changeId (fun _ => True) (generateStep context) :=
      generateStep_isAside trivial context
    have still := (congrArg Prod.fst (writing.aside generated).standing).trans current
    obtain ⟨result, last, vainly, went, same, shown, events, unasked⟩ :=
      challengePlan_inVain revises vain still
    have planned : runCycle context .proposed ready = challengePlan context written := by
      obtain ⟨-, -, -, folder, -⟩ := prepare_start recorded prepared
      rw [runCycle_of_unwritten (by rw [folder]; exact unwritten)]
      exact Run.bind_of_ok generated
    obtain ⟨gave, kept, traced⟩ := ends runCycle (planned.trans went) same
    exact ⟨gave ▸ vainly, kept, shown, traced.trans events, unasked⟩

end Project

namespace TwoTurns

open PlanCycle.Cycle ChangeFolder

/-- The step of a call, and the conversation that it takes up. -/
def asked? : Event → Option (String × Resume)
  | .asked call _ => some (call.step, call.resume)
  | _ => none

set_option maxRecDepth 100000 in
/-- The calls of the two turns: only the revision takes up the conversation. -/
theorem round_asks : (round cast.agents).2.events.filterMap asked? =
    [("challenge", .none), ("revise:1", .index 1), ("challenge", .none)] := by
  decide +kernel

/-! ### A revision without a conversation -/

/-- What a step that is done hands on. -/
def handedOn? : Except Stop (StepEnd α) → Option α
  | .ok (.done value) => some value
  | _ => none

theorem eq_of_handedOn? {ran : Except Stop (StepEnd α) × World} {value : α}
    (done : handedOn? ran.1 = some value) : ran = (.ok (.done value), ran.2) := by
  obtain ⟨result, last⟩ := ran
  unfold handedOn? at done
  split at done
  · rename_i same
    cases done
    exact Prod.ext same rfl
  · cases done

/-- The change, of which no conversation is on record. -/
def namelessChange : Change := { change with sessionId := none }

/-- The project with that change. -/
def namelessProject : Project :=
  let place := Project.place {} root change.id
  { folders := [(place, leastPlan)]
    stores := [(Settings.recordPath {} place, { changes := [namelessChange] })] }

/-- The same cast, and a budget of so many critiques. -/
def limited (budget : Int) : Means :=
  { means with policy := some { planningIterations := budget } }

/-- What a round on that change does not alter. -/
def namelessContext (budget : Int) : CycleContext :=
  namelessProject.context root namelessChange cast (limited budget) lister

/-- Where a round on that change begins. -/
def namelessReady : World :=
  { files := leastPlan, store := { changes := [namelessChange] }, agents := cast.agents
    processes := means.processes }

/-- The world once the plan is checked. -/
def namelessChecked (budget : Int) : World :=
  (namelessReady.logs (stepEvent (namelessContext budget) "validate" "started")).logs
    (stepEvent (namelessContext budget) "validate" "completed")

/-- The first critique, with the world once the critic objects. -/
def namelessCritique (budget : Int) : Except Stop (StepEnd Review) × World :=
  challengeStep (namelessContext budget) 1 (namelessChecked budget)

theorem validateStep_nameless (budget : Int) :
    validateStep (namelessContext budget) namelessReady =
      (.ok (.done ()), namelessChecked budget) := by
  have clean : ((namelessContext budget).folder namelessReady).checkup = ⟨0, .ok ⟨[]⟩⟩ :=
    checkup_leastPlan (namelessContext budget).place
  have unwarned : skippedWarnings ((namelessContext budget).folder namelessReady) = [] := by
    rw [skippedWarnings, clean]
    rfl
  refine validateStep_done_iff.2 ⟨⟨[]⟩, by rw [clean], rfl, ?_⟩
  unfold afterCheck
  rw [unwarned]
  rfl

/-- The critic objects once, and no conversation is on record then. -/
theorem namelessCritique_objects (budget : Int) :
    handedOn? (namelessCritique budget).1 = some firstReview ∧
      ((namelessCritique budget).2.store.conversation? change.id).filter (· != "") = none := by
  have attempts : 1 ≤ (namelessContext budget).policy.attempts :=
    (by decide : 1 ≤ ({} : CyclePolicy).attempts)
  have found : (namelessChecked budget).store.find? (namelessContext budget).changeId =
      some namelessChange := rfl
  have critic : cast.agents .critic = .ready (replyOf objection.text) [replyOf approval.text] := rfl
  obtain ⟨last, shown, went, known, -⟩ := challengeStep_gives (fun _ _ _ _ => rfl)
    (critiques_leastPlan attempts means.processes critic firstReview_isApplicable) found rfl rfl []
  have whole : namelessCritique budget = _ := went
  have nameless : last.conversation? change.id = none := by
    have same : last.find? change.id = _ := known
    rw [Store.conversation?, same]
    rfl
  rw [whole, show critiqueEnding (Review.parse (answerOf objection.text).output) = _ from
    critiqueEnding_of_asks firstReview_asks]
  exact ⟨rfl, congrArg (Option.filter _) nameless⟩

/-- A round on that change comes to a revision, and there is no conversation for it. -/
theorem nameless_comesToRevision {budget : Int} (enough : 1 ≤ budget) :
    (∃ review : Review, review.issues.length = 1 ∧
      namelessProject.ComesToRevision root change.id (limited budget)
        (namelessProject.challenge root change.id (limited budget)) (namelessContext budget) 1
        review (namelessCritique budget).2) ∧
      LooksInVain (namelessContext budget) (namelessCritique budget).2 .unrecorded := by
  obtain ⟨objected, nameless⟩ := namelessCritique_objects budget
  have issues : firstReview.issues.length = 1 :=
    congrArg List.length (WrittenReview.parse_text objection_isReadable).2
  have prepared : namelessProject.prepare root change.id (limited budget)
      (namelessProject.start root change.id (limited budget) { changes := [namelessChange] }) =
        (.ok (namelessContext budget, .proposed), namelessReady) :=
    Project.prepare_ok_iff.2 ⟨namelessChange, cast, lister, rfl, rfl, listed, rfl, rfl, rfl, rfl⟩
  exact ⟨⟨firstReview, issues, _, _, rfl, prepared, .inl ⟨rfl, _, validateStep_nameless budget,
    enough, .now (eq_of_handedOn? objected)⟩⟩, .unrecorded nameless⟩

end TwoTurns

end PlanCycle
