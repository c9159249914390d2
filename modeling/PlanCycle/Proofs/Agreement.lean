/-
Module: PlanCycle.Proofs.Agreement
Purpose: The phase of a change agrees with the last critique of its plan.  Every session and every
  run on the change keeps that, also one that stops on its way.
Main exports:
  Phase.AgreesWith, Store.Agrees, Run.KeepsAgreement, Cycle.runCycle_agrees,
  Cycle.runChallenge_agrees, Lifecycle.implement_keepsAgreement, Lifecycle.archive_keepsAgreement,
  Lifecycle.reenter_keepsAgreement
-/
import PlanCycle.Proofs.Critique

namespace PlanCycle

variable {α β : Type} {id : String}

/-! ### The invariant -/

/-- Whether a phase is the one that the last critique left, or one that follows it.  A plan is
proposed as long as no critique approved it. -/
def Phase.AgreesWith (phase : Phase) (latest : Option ReviewEntry) : Prop :=
  match phase with
  | .proposed => ∀ entry, latest = some entry → entry.verdict ≠ Verdict.approved.word
  | .rejected => ∃ entry, latest = some entry ∧ entry.verdict = Verdict.rejected.word ∧
      entry.issues ≠ []
  | .challenged | .implementing | .complete | .archived =>
      ∃ entry, latest = some entry ∧ entry.verdict = Verdict.approved.word

/-- Whether a change is on record in a phase that agrees with its last critique. -/
def Store.Agrees (store : Store) (id : String) : Prop :=
  ∃ change, store.find? id = some change ∧ change.phase.AgreesWith (store.latestCritique? id)

theorem Store.agrees_iff_standing {store : Store} :
    store.Agrees id ↔ ∃ phase, (store.standing id).1 = some phase ∧
      phase.AgreesWith (store.standing id).2 := by
  unfold Agrees standing
  constructor
  · rintro ⟨change, found, agrees⟩
    exact ⟨change.phase, by rw [found]; rfl, agrees⟩
  · rintro ⟨phase, found, agrees⟩
    obtain ⟨change, known, rfl⟩ := Option.map_eq_some_iff.mp found
    exact ⟨change, known, agrees⟩

/-- Agreement depends on the standing only. -/
theorem Store.Agrees.of_standing {store last : Store} (agrees : store.Agrees id)
    (same : last.standing id = store.standing id) : last.Agrees id := by
  rw [agrees_iff_standing] at agrees ⊢
  rwa [same]

theorem verdict_word_injective {first second : Verdict} (same : first.word = second.word) :
    first = second := by
  cases first <;> cases second <;> simp_all [Verdict.word]

/-- The phase after a critique of a proposed plan agrees with that critique. -/
theorem Review.nextPhase_agreesWith (context : CycleContext) (review : Review) (iteration : Int) :
    (review.nextPhase .proposed).AgreesWith (some (review.entry context iteration)) := by
  unfold nextPhase
  split
  · rename_i applicable
    unfold Cycle.isApplicable at applicable
    cases verdict : review.verdict with
    | approved => exact ⟨_, rfl, congrArg Verdict.word verdict⟩
    | needsRevision =>
        intro entry same
        cases same
        simp [entry, verdict, Verdict.word]
    | rejected =>
        refine ⟨_, rfl, congrArg Verdict.word verdict, ?_⟩
        have named : review.issues ≠ [] := by
          simpa [verdict, isConsistent, requestsChanges] using applicable
        simpa [entry] using named
    | unknown => simp [verdict] at applicable
  · rename_i inapplicable
    intro entry same approved
    cases same
    have verdict : review.verdict = .approved := verdict_word_injective approved
    apply inapplicable
    simp [Cycle.isApplicable, verdict, isConsistent, requestsChanges]

/-- Moves from an approved plan on keep the agreement. -/
theorem Change.moveTo_agreesWith {change moved : Change} {target : Phase}
    {latest : Option ReviewEntry} (done : change.moveTo target = .ok moved)
    (follows : target = .implementing ∨ target = .complete ∨ target = .archived)
    (agrees : change.phase.AgreesWith latest) : moved.phase.AgreesWith latest := by
  have allowed : target ∈ change.phase.next := by
    unfold moveTo at done
    split at done
    · assumption
    · cases done
  rw [phase_of_moveTo done]
  rcases follows with rfl | rfl | rfl
  all_goals
    cases phase : change.phase <;> simp_all [Phase.next, Phase.AgreesWith]

theorem Change.moveTo_id {change moved : Change} {target : Phase}
    (done : change.moveTo target = .ok moved) : moved.id = change.id := by
  unfold moveTo at done
  split at done
  · cases done
    rfl
  · cases done

/-- A rejected plan that is proposed again keeps its last critique, which did not approve it. -/
theorem Lifecycle.reopened_agreesWith {change moved : Change} {latest : Option ReviewEntry}
    (done : reopened change = .ok moved) (agrees : change.phase.AgreesWith latest) :
    moved.phase.AgreesWith latest := by
  unfold reopened Change.reenter at done
  split at done
  · rename_i rejected
    rw [rejected] at agrees
    obtain ⟨entry, rfl, verdict, -⟩ := agrees
    rw [Change.phase_of_moveTo done]
    intro other same
    cases same
    simp [verdict, Verdict.word]
  · cases done

theorem Lifecycle.reopened_id {change moved : Change} (done : reopened change = .ok moved) :
    moved.id = change.id := by
  unfold reopened Change.reenter at done
  split at done
  · have same := Change.moveTo_id done
    exact same
  · cases done

/-! ### Sessions -/

/-- The sessions after which phase and last critique agree if they did before. -/
def Session.KeepsAgreement (id : String) (work : Session α) : Prop :=
  ∀ ⦃store value last⦄, work store = .ok (value, last) → store.Agrees id → last.Agrees id

namespace Session.KeepsAgreement

theorem of_standing {work : Session α} (keeps : work.KeepsStanding id) :
    KeepsAgreement id work :=
  fun _ _ _ worked agrees => agrees.of_standing (keeps worked).1

theorem bind {first : Session α} {next : α → Session β} (one : KeepsAgreement id first)
    (two : ∀ value, KeepsAgreement id (next value)) : KeepsAgreement id (first >>= next) := by
  intro store value last worked agrees
  obtain ⟨between, after, begun, ended⟩ := Session.bind_ok_iff.1 worked
  exact two between ended (one begun agrees)

theorem advance {step : Change → Except Failure Change}
    (sameId : ∀ change moved, step change = .ok moved → moved.id = change.id)
    (keeps : ∀ change moved latest, step change = .ok moved → change.phase.AgreesWith latest →
      moved.phase.AgreesWith latest) : KeepsAgreement id (Session.advance id step) := by
  intro store after last worked ⟨known, first, agrees⟩
  obtain ⟨change, found, stepped, -, rfl⟩ := Session.advance_ok_iff.1 worked
  obtain rfl := Option.some.inj (first.symm.trans found)
  refine ⟨after, Store.find?_withChange_self found (sameId _ _ stepped), ?_⟩
  exact keeps _ _ _ stepped agrees

theorem logEvent {entry : LogEntry} (untimed : entry.durationMs = none) :
    KeepsAgreement id (Session.logEvent entry) := by
  intro store row last worked agrees
  obtain ⟨-, rfl⟩ := (Session.logEvent_ok_iff untimed).1 worked
  exact agrees

end Session.KeepsAgreement

/-- How far an implementation is changes nothing about the verdict on the plan. -/
theorem Lifecycle.keepProgress_keepsAgreement (graph : TaskGraph) :
    (keepProgress id graph).KeepsAgreement id := by
  have noted : (noteProgress id graph).KeepsAgreement id := by
    refine .bind (.of_standing (.modify (fun _ => rfl) fun _ => rfl)) fun _ => ?_
    exact .bind (.logEvent rfl) fun _ => .of_standing (.pure _)
  refine keepProgress_of (fun _ work => work.KeepsAgreement id) .bind (.of_standing (.load id))
    (fun target follows => ?_) noted
  refine .advance (fun _ _ => Change.moveTo_id) fun _ _ _ done => ?_
  exact Change.moveTo_agreesWith done (follows.imp_right .inl)

/-! ### Runs -/

/-- The runs after which phase and last critique agree if they did before, however they end. -/
def Run.KeepsAgreement (id : String) (run : Run α) : Prop :=
  ∀ ⦃world result last⦄, run world = (result, last) → world.store.Agrees id → last.store.Agrees id

namespace Run.KeepsAgreement

/-- A run that goes aside keeps the agreement, whoever is asked. -/
theorem of_aside {run : Run α} (goes : run.IsAside id fun _ => True) : KeepsAgreement id run :=
  fun _ _ _ ran agrees => agrees.of_standing (goes.aside ran).standing

theorem bind {first : Run α} {next : α → Run β} (one : KeepsAgreement id first)
    (two : ∀ value, KeepsAgreement id (next value)) : KeepsAgreement id (first >>= next) := by
  intro world result last ran agrees
  rcases Run.bind_cases ran with ⟨_, stopped, -⟩ | ⟨value, after, begun, ended⟩
  · exact one stopped agrees
  · exact two value ended (one begun agrees)

theorem session {work : Session α} (keeps : work.KeepsAgreement id) :
    KeepsAgreement id (Run.session work) := by
  intro world result last ran agrees
  rcases Run.session_cases ran with ⟨_, _, _, rfl⟩ | ⟨value, store, worked, _, rfl⟩
  · exact agrees
  · exact keeps worked agrees

end Run.KeepsAgreement

namespace Cycle

/-- A change that is on record as proposed, with an agreeing critique. -/
def IsProposed (id : String) (store : Store) : Prop :=
  store.Agrees id ∧ (store.standing id).1 = some .proposed

theorem IsProposed.of_standing {store last : Store} (proposed : IsProposed id store)
    (same : last.standing id = store.standing id) : IsProposed id last :=
  ⟨proposed.1.of_standing same, by rw [same]; exact proposed.2⟩

/-- A critique of a proposed change leaves phase and critique in agreement.  A verdict that goes on
leaves the change proposed. -/
theorem challengeStep_agrees {context : CycleContext} {iteration : Nat} {world last : World}
    {result : Except Stop (StepEnd Review)}
    (ran : challengeStep context iteration world = (result, last))
    (proposed : IsProposed context.changeId world.store) :
    last.store.Agrees context.changeId ∧
      ∀ review, result = .ok (.done review) → IsProposed context.changeId last.store := by
  rcases challengeStep_cases ran with ⟨aside, ends⟩ | ⟨review, kept, made, aside, ends⟩
  · have same := (aside context.changeId (fun _ => True) trivial).standing
    refine ⟨proposed.1.of_standing same, fun _ _ => proposed.of_standing same⟩
  · obtain ⟨change, found, -, standing⟩ := standing_critique made
    have phase : change.phase = .proposed := by
      have known := proposed.2
      rw [World.store_logs, Store.find?_logged] at found
      simpa [Store.standing, found] using known
    have same := (aside context.changeId fun _ => True).standing
    rw [standing, phase] at same
    have agrees : last.store.Agrees context.changeId := by
      rw [Store.agrees_iff_standing, same]
      exact ⟨_, rfl, Review.nextPhase_agreesWith context review iteration⟩
    refine ⟨agrees, fun other ended => ⟨agrees, ?_⟩⟩
    subst ended
    rw [same, ends.asksForRevision.2.nextPhase]

/-- Critiques and revisions in turn keep the agreement, from a proposed change on. -/
theorem critiquesFrom_agrees {context : CycleContext} {iteration left : Nat}
    {world last : World} {result : Except Stop (Option CycleOutcome)}
    (ran : critiquesFrom context iteration left world = (result, last))
    (proposed : IsProposed context.changeId world.store) :
    last.store.Agrees context.changeId := by
  induction left generalizing iteration world with
  | zero =>
      cases ran
      exact proposed.1
  | succ left ih =>
      unfold critiquesFrom at ran
      rcases Run.bind_cases ran with ⟨_, stopped, -⟩ | ⟨ending, after, challenged, ran⟩
      · exact (challengeStep_agrees stopped proposed).1
      obtain ⟨agrees, goesOn⟩ := challengeStep_agrees challenged proposed
      cases ending with
      | ended outcome =>
          cases ran
          exact agrees
      | done review =>
          have unjudged := goesOn review rfl
          have revising : Run.IsAside context.changeId (fun _ => True)
              (reviseStep context iteration review) := reviseStep_isAside trivial _ _ _
          rcases Run.bind_cases ran with ⟨_, stopped, -⟩ | ⟨ending, revised, begun, ran⟩
          · exact agrees.of_standing (revising.aside stopped).standing
          · have still := unjudged.of_standing (revising.aside begun).standing
            cases ending with
            | ended outcome =>
                cases ran
                exact still.1
            | done _ => exact ih ran still

theorem challengePlan_agrees {context : CycleContext} {world last : World}
    {result : Except Stop CycleOutcome} (ran : challengePlan context world = (result, last))
    (proposed : IsProposed context.changeId world.store) :
    last.store.Agrees context.changeId := by
  have checking : Run.IsAside context.changeId (fun _ => True) (validateStep context) :=
    validateStep_isAside context
  unfold challengePlan at ran
  rcases Run.bind_cases ran with ⟨_, stopped, -⟩ | ⟨ending, checked, begun, ran⟩
  · exact proposed.1.of_standing (checking.aside stopped).standing
  have still := proposed.of_standing (checking.aside begun).standing
  cases ending with
  | ended outcome =>
      cases ran
      exact still.1
  | done _ =>
      unfold critiqueRound at ran
      rcases Run.bind_cases ran with ⟨_, stopped, -⟩ | ⟨outcome, after, round, ran⟩
      · exact critiquesFrom_agrees stopped still
      · cases ran
        exact critiquesFrom_agrees round still

theorem makePlan_agrees {context : CycleContext} {world last : World}
    {result : Except Stop CycleOutcome} (ran : makePlan context world = (result, last))
    (proposed : IsProposed context.changeId world.store) :
    last.store.Agrees context.changeId := by
  have writing : Run.IsAside context.changeId (fun _ => True) (generateStep context) :=
    generateStep_isAside trivial context
  unfold makePlan at ran
  rcases Run.bind_cases ran with ⟨_, stopped, -⟩ | ⟨ending, written, begun, ran⟩
  · exact proposed.1.of_standing (writing.aside stopped).standing
  have still := proposed.of_standing (writing.aside begun).standing
  cases ending with
  | ended outcome =>
      cases ran
      exact still.1
  | done _ => exact challengePlan_agrees ran still

theorem outcomeFromRecords_isAside {mayAsk : Role → Prop} (context : CycleContext)
    (phase : Phase) : Run.IsAside id mayAsk (outcomeFromRecords context phase) := by
  refine .bind (.look _) fun latest => ?_
  split
  · exact .pure _
  · refine .bind (validated_isAside context) fun validation => ?_
    split
    · exact .pure _
    · split
      · exact .pure _
      · exact .pure _

theorem onlyValidates_isAside {mayAsk : Role → Prop} (context : CycleContext) (phase : Phase) :
    Run.IsAside id mayAsk (onlyValidates context phase) := by
  unfold onlyValidates
  split
  · exact .pure _
  · exact .bind (.look _) fun _ => .ofFiles _

/-- Only a proposed change gets more than a check. -/
theorem proposed_of_not_onlyValidates {context : CycleContext} {phase : Phase}
    {world last : World} (ran : onlyValidates context phase world = (.ok false, last)) :
    phase = .proposed := by
  unfold onlyValidates at ran
  split at ran
  · cases ran
  · rename_i proposed
    simpa using proposed

/-- A planning cycle on a change in its phase keeps the agreement. -/
theorem runCycle_agrees {context : CycleContext} {phase : Phase} {world last : World}
    {result : Except Stop CycleOutcome} (ran : runCycle context phase world = (result, last))
    (agrees : world.store.Agrees context.changeId)
    (current : (world.store.standing context.changeId).1 = some phase) :
    last.store.Agrees context.changeId := by
  have looking : Run.IsAside context.changeId (fun _ => True) (onlyValidates context phase) :=
    onlyValidates_isAside context phase
  unfold runCycle at ran
  rcases Run.bind_cases ran with ⟨_, stopped, -⟩ | ⟨only, looked, begun, ran⟩
  · exact agrees.of_standing (looking.aside stopped).standing
  have same := (looking.aside begun).standing
  cases only with
  | true =>
      have showing : Run.IsAside context.changeId (fun _ => True)
          (Run.say "[dim]All artifacts present; validating only[/dim]" >>= fun _ =>
            outcomeFromRecords context phase) :=
        .bind (.say _) fun _ => outcomeFromRecords_isAside context phase
      exact (agrees.of_standing same).of_standing (showing.aside ran).standing
  | false =>
      obtain rfl := proposed_of_not_onlyValidates begun
      exact makePlan_agrees ran ⟨agrees.of_standing same, by rw [same]; exact current⟩

/-- A round of critiques on a change in its phase keeps the agreement. -/
theorem runChallenge_agrees {context : CycleContext} {phase : Phase} {world last : World}
    {result : Except Stop CycleOutcome} (ran : runChallenge context phase world = (result, last))
    (agrees : world.store.Agrees context.changeId)
    (current : (world.store.standing context.changeId).1 = some phase) :
    last.store.Agrees context.changeId := by
  unfold runChallenge at ran
  split at ran
  · rename_i proposed
    subst proposed
    exact challengePlan_agrees ran ⟨agrees, current⟩
  · cases ran
    exact agrees

end Cycle

/-! ### The rest of the lifecycle -/

namespace Lifecycle

theorem status_keepsAgreement (id other : String) (place : Path) :
    (status other place).KeepsAgreement id := by
  intro world result last ran agrees
  cases ran
  exact agrees

theorem taskGraph_isAside {mayAsk : Role → Prop} (context : CycleContext) :
    Run.IsAside id mayAsk (taskGraph context) :=
  .bind (.look _) fun _ => .bind (.ofFiles _) fun _ => .bind (.warnAll _) fun _ => .ofExcept _

theorem implementTasks_isAside (context : CycleContext) (pending : List String) :
    Run.IsAside id (fun _ => True) (implementTasks context pending) := by
  refine .bind (.look _) fun folder => .bind (.ofFiles _) fun prompt => ?_
  refine .bind (.call trivial _ _) fun answer => ?_
  refine .bind (Cycle.warnOfUsage_isAside _ _) fun _ => .session ?_
  exact .bind (.recordUsage _ _ _) fun _ => .pure _

/-- The implementation of tasks keeps the agreement, whoever the implementer is. -/
theorem implement_keepsAgreement {context : CycleContext} {implementer : Run CycleContext}
    (finding : Run.IsAside context.changeId (fun _ => True) implementer) :
    (implement context implementer).KeepsAgreement context.changeId := by
  refine .bind (.of_aside (.session (.load _))) fun change => ?_
  split
  · exact .of_aside (.stop _)
  refine .bind (.of_aside (taskGraph_isAside context)) fun graph => ?_
  have finished : (do
      let graph ← taskGraph context
      Run.session (keepProgress context.changeId graph)
      Run.say ("[green]✓ " ++ toString graph.progress.1 ++ "/" ++ toString graph.progress.2 ++
        " tasks done[/green]")
      status context.changeId context.place : Run ChangeStatus).KeepsAgreement
        context.changeId := by
    refine .bind (.of_aside (taskGraph_isAside context)) fun graph => ?_
    refine .bind (.session (keepProgress_keepsAgreement graph)) fun _ => ?_
    exact .bind (.of_aside (.say _)) fun _ => status_keepsAgreement _ _ _
  dsimp only
  split
  · exact .bind (.of_aside (.say _)) fun _ => finished
  · refine .bind (.of_aside (.say _)) fun _ => .bind (.of_aside finding) fun found => ?_
    exact .bind (.of_aside (implementTasks_isAside _ _)) fun _ => finished

theorem archive_keepsAgreement (place : Path) : (archive id place).KeepsAgreement id := by
  refine .bind (.session ?_) fun _ => status_keepsAgreement _ _ _
  have archiving : (Session.advance id (·.moveTo .archived)).KeepsAgreement id :=
    .advance (fun _ _ => Change.moveTo_id) fun _ _ _ done =>
      Change.moveTo_agreesWith done (.inr (.inr rfl))
  refine .bind archiving fun _ => .bind (.of_standing (.modify (fun _ => rfl) fun _ => rfl)) ?_
  exact fun _ => .bind (.logEvent rfl) fun _ => .of_standing (.pure _)

theorem reenter_keepsAgreement (place : Path) : (reenter id place).KeepsAgreement id := by
  refine .bind (.session ?_) fun _ => status_keepsAgreement _ _ _
  have reopening : (Session.advance id reopened).KeepsAgreement id :=
    .advance (fun _ _ => reopened_id) fun _ _ _ => reopened_agreesWith
  refine .bind reopening fun _ => .bind (.of_standing (.modify (fun _ => rfl) fun _ => rfl)) ?_
  exact fun _ => .bind (.logEvent rfl) fun _ => .of_standing (.pure _)

/-- What is asked for of a new change is its status, once it is on record. -/
theorem create_eq_status {world : World} (empty : world.store = {}) (id description : String)
    (place : Path) :
    ∃ store : Store, store.changes = [{ id, description }] ∧ store.reviews = [] ∧
      create id description place world = status id place { world with store } := by
  obtain ⟨store, entered, changes, reviews⟩ : ∃ store : Store,
      (do
        let _ ← Session.create id description
        let _ ← Session.logEvent
          { changeId := id, step := "create", event := "completed", message := some description }
        : Session Unit) {} = .ok ((), store) ∧
      store.changes = [{ id, description }] ∧ store.reviews = [] := ⟨_, rfl, rfl, rfl⟩
  rw [← empty] at entered
  exact ⟨store, changes, reviews, Run.bind_of_ok (Run.session_of_ok entered)⟩

/-- A new change is on record as proposed, and nothing was said about its plan. -/
theorem create_agrees {description : String} {place : Path} {world last : World}
    {result : Except Stop ChangeStatus}
    (ran : create id description place world = (result, last)) (empty : world.store = {}) :
    last.store.Agrees id := by
  obtain ⟨store, changes, reviews, same⟩ := create_eq_status empty id description place
  rw [same] at ran
  cases ran
  refine ⟨{ id, description }, by simp [Store.find?, changes], ?_⟩
  intro entry latest
  simp [Store.latestCritique?, Store.latestReview?, Store.reviewsOf, reviews] at latest

end Lifecycle

end PlanCycle
