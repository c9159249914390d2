/-
Module: PlanCycle.Proofs.Rerun
Purpose: A cycle after a cycle that ended with a verdict: the records alone give the same outcome,
  nobody is asked and nothing changes.
Main exports:
  Event.IsShown, Event.firstCritique?, Cycle.IsRecorded, Cycle.runCycle_of_recorded,
  Project.rerun_agrees
-/
import PlanCycle.Proofs.Agreement
import PlanCycle.Proofs.Project
import PlanCycle.Proofs.CritiqueRound

namespace PlanCycle

variable {α : Type}

/-! ### What a trace says -/

/-- Whether an event only shows something: nobody is asked and no program is run. -/
def Event.IsShown : Event → Prop
  | .line _ | .panel .. | .table .. | .warning _ => True
  | _ => False

/-- The files at a question to the critic. -/
def Event.critiqued? : Event → Option Folder
  | .asked call files => if call.role = .critic then some files else none
  | _ => none

/-- The files at the first question to the critic.  The documents were checked just before. -/
def Event.firstCritique? (events : List Event) : Option Folder :=
  events.findSome? critiqued?

/-- Questions to others do not count. -/
theorem Event.AsksOnly.critiqued? {event : Event} (others : event.AsksOnly (· ≠ .critic)) :
    event.critiqued? = none := by
  cases event with
  | asked call files => exact if_neg others
  | line text => rfl
  | panel title text => rfl
  | table title columns rows => rfl
  | warning text => rfl
  | answered call answer accepted files => rfl
  | ran spawn result => rfl

theorem Event.firstCritique?_of_others {events : List Event}
    (others : ∀ event ∈ events, event.AsksOnly (· ≠ .critic)) : firstCritique? events = none := by
  unfold firstCritique?
  rw [List.findSome?_eq_none_iff]
  intro event member
  exact (others event member).critiqued?

/-- A question to the critic is the first one if only others were asked before. -/
theorem Event.firstCritique?_asked {before rest : List Event} {call : AgentCall} {files : Folder}
    (others : ∀ event ∈ before, event.AsksOnly (· ≠ .critic)) (critic : call.role = .critic) :
    firstCritique? (before ++ .asked call files :: rest) = some files := by
  have none_before := firstCritique?_of_others others
  unfold firstCritique? at none_before ⊢
  rw [List.findSome?_append, none_before, List.findSome?_cons, critiqued?, if_pos critic]
  rfl

/-- Whether the trace of a world goes on from the one of another. -/
def World.Continues (before after : World) : Prop :=
  ∃ added, after.events = before.events ++ added

theorem World.Continues.trans {first middle last : World} (earlier : first.Continues middle)
    (later : middle.Continues last) : first.Continues last := by
  obtain ⟨added, addedEvents⟩ := earlier
  obtain ⟨more, moreEvents⟩ := later
  exact ⟨added ++ more, by rw [moreEvents, addedEvents, List.append_assoc]⟩

theorem World.Aside.continues {id : String} {mayAsk : Role → Prop} {before after : World}
    (aside : before.Aside id mayAsk after) : before.Continues after := by
  obtain ⟨added, events, -⟩ := aside.traced
  exact ⟨added, events⟩

namespace Cycle

/-! ### What the records say after an outcome -/

/-- What the records of a change say after an outcome that a verdict decided. -/
def IsRecorded (id : String) (policy : CyclePolicy) (store : Store) : CycleOutcome → Prop
  | .approved => (store.standing id).1 = some .challenged
  | .rejected => (store.standing id).1 = some .rejected
  | .exhausted issues => ∃ entry, store.standing id = (some .proposed, some entry) ∧
      entry.verdict = Verdict.needsRevision.word ∧ entry.issues ≠ [] ∧
      entry.issues.length = issues ∧ policy.planningIterations ≤ entry.iteration
  | .error .. => True

/-- An outcome that a verdict decided is one of a change on record. -/
theorem IsRecorded.onRecord {id : String} {policy : CyclePolicy} {store : Store}
    {outcome : CycleOutcome} (recorded : IsRecorded id policy store outcome)
    (judged : ∀ kind step message, outcome ≠ .error kind step message) :
    ∃ change, store.find? id = some change := by
  have phased : ∃ phase, (store.standing id).1 = some phase := by
    cases outcome with
    | approved => exact ⟨_, recorded⟩
    | rejected => exact ⟨_, recorded⟩
    | exhausted issues =>
        obtain ⟨entry, standing, -⟩ := recorded
        exact ⟨_, congrArg Prod.fst standing⟩
    | error kind step message => exact absurd rfl (judged kind step message)
  obtain ⟨phase, standing⟩ := phased
  obtain ⟨change, found, -⟩ := Option.map_eq_some_iff.mp standing
  exact ⟨change, found⟩

theorem IsRecorded.ofFailure {id step : String} {policy : CyclePolicy} {store : Store}
    {failure : Failure} : IsRecorded id policy store (.ofFailure step failure) := by
  obtain ⟨kind, call, message, same⟩ := ofFailure_isError step failure
  rw [same]
  trivial

/-- Where a change stands after the critique of its proposed plan: at the outcome, or at a plan to
be revised. -/
def StandsAt (context : CycleContext) (iteration : Nat) (store : Store) : StepEnd Review → Prop
  | .ended outcome => IsRecorded context.changeId context.policy store outcome
  | .done review => review.AsksForRevision ∧
      store.standing context.changeId = (some .proposed, some (review.entry context iteration))

theorem challengeStep_standsAt {context : CycleContext} {iteration : Nat} {world last : World}
    {ending : StepEnd Review}
    (ran : challengeStep context iteration world = (.ok ending, last))
    (proposed : (world.store.standing context.changeId).1 = some .proposed) :
    StandsAt context iteration last.store ending := by
  rcases challengeStep_cases ran with ⟨-, ⟨_, impossible⟩ | ⟨failure, same⟩⟩ |
    ⟨review, kept, made, aside, ends⟩
  · cases impossible
  · cases same
    exact IsRecorded.ofFailure
  · obtain ⟨change, found, -, standing⟩ := standing_critique made
    have phase : change.phase = .proposed := by
      rw [World.store_logs, Store.find?_logged] at found
      simpa [Store.standing, found] using proposed
    have stands := (aside context.changeId fun _ => True).standing
    rw [standing, phase] at stands
    cases ending with
    | done other =>
        obtain ⟨rfl, asks⟩ := ends.asksForRevision
        rw [asks.nextPhase] at stands
        exact ⟨asks, stands⟩
    | ended outcome =>
        cases ends with
        | failed failure => exact IsRecorded.ofFailure
        | applied _ applicable same =>
            have next : review.nextPhase .proposed =
                (Phase.ofVerdict? review.verdict).getD .proposed := if_pos applicable
            rw [next] at stands
            unfold verdictEnd at same
            cases verdict : review.verdict with
            | approved =>
                rw [verdict] at same stands
                cases same
                exact congrArg Prod.fst stands
            | rejected =>
                rw [verdict] at same stands
                cases same
                exact congrArg Prod.fst stands
            | needsRevision => simp [verdict] at same
            | unknown => simp [verdict] at same

/-- A revision that goes on needs a budget for another critique.  One that does not go on has no
budget or fails. -/
theorem reviseStep_cases {context : CycleContext} {iteration : Nat} {review : Review}
    {world last : World} {ending : StepEnd Unit}
    (ran : reviseStep context iteration review world = (.ok ending, last)) :
    (ending = .done () ∧ (iteration : Int) < context.policy.planningIterations) ∨
      (ending = .ended (.exhausted review.issues.length) ∧
        context.policy.planningIterations ≤ iteration) ∨
      ∃ failure, ending = .ended (.ofFailure "revise" failure) := by
  rcases runStep_cases ran with ⟨_, after, body, same, -⟩ | ⟨failure, _, _, -, same, -⟩ |
    ⟨_, _, _, _, _, impossible, -⟩
  · cases same
    split at body
    · rename_i spent
      cases body
      exact .inr (.inl ⟨rfl, spent⟩)
    · rename_i allowed
      obtain ⟨_, _, -, body⟩ := Run.bind_ok body
      cases body
      exact .inl ⟨rfl, by omega⟩
  · cases same
    exact .inr (.inr ⟨failure, rfl⟩)
  · cases impossible

/-- Critiques and revisions within their budget end with an outcome that the records confirm. -/
theorem critiquesFrom_recorded {context : CycleContext} {iteration left : Nat}
    {world last : World} {outcome : Option CycleOutcome}
    (ran : critiquesFrom context iteration left world = (.ok outcome, last))
    (proposed : (world.store.standing context.changeId).1 = some .proposed)
    (budget : (iteration : Int) + left = context.policy.planningIterations + 1)
    (more : left ≠ 0) :
    ∃ ended, outcome = some ended ∧
      IsRecorded context.changeId context.policy last.store ended := by
  induction left generalizing iteration world with
  | zero => exact absurd rfl more
  | succ left ih =>
      unfold critiquesFrom at ran
      obtain ⟨ending, after, challenged, ran⟩ := Run.bind_ok ran
      have stands := challengeStep_standsAt challenged proposed
      cases ending with
      | ended ended =>
          cases ran
          exact ⟨ended, rfl, stands⟩
      | done review =>
          obtain ⟨asks, standing⟩ := stands
          obtain ⟨ending, revised, begun, ran⟩ := Run.bind_ok ran
          have revising : Run.IsAside context.changeId (fun _ => True)
              (reviseStep context iteration review) := reviseStep_isAside trivial _ _ _
          have still := (revising.aside begun).standing
          rw [standing] at still
          rcases reviseStep_cases begun with ⟨rfl, allowed⟩ | ⟨rfl, spent⟩ | ⟨failure, rfl⟩
          · refine ih ran (by rw [still]) (by push_cast at budget ⊢; omega) (by omega)
          · cases ran
            refine ⟨_, rfl, _, still, congrArg Verdict.word asks.1, ?_, ?_, spent⟩
            · simpa [Review.entry] using asks.2
            · simp [Review.entry]
          · cases ran
            exact ⟨_, rfl, IsRecorded.ofFailure⟩

/-! ### The first question to the critic -/

/-- Whether the trace goes on with a question to the critic about the files as they are, nobody but
others having been asked before. -/
def AsksFirst (before after : World) (files : Folder) : Prop :=
  ∃ others call rest, after.events = before.events ++ others ++ .asked call files :: rest ∧
    (∀ event ∈ others, event.AsksOnly (· ≠ .critic)) ∧ call.role = .critic

theorem AsksFirst.continues {before middle last : World} {files : Folder}
    (asks : AsksFirst before middle files) (later : middle.Continues last) :
    AsksFirst before last files := by
  obtain ⟨others, call, rest, events, ask, critic⟩ := asks
  obtain ⟨added, more⟩ := later
  exact ⟨others, call, rest ++ added, by simp [more, events], ask, critic⟩

theorem AsksFirst.after {id : String} {before middle last : World} {files : Folder}
    (earlier : before.Aside id (· ≠ .critic) middle) (asks : AsksFirst middle last files) :
    AsksFirst before last files := by
  obtain ⟨added, addedEvents, addedAsk⟩ := earlier.traced
  obtain ⟨others, call, rest, events, ask, critic⟩ := asks
  refine ⟨added ++ others, call, rest, by simp [events, addedEvents], ?_, critic⟩
  intro event member
  rcases List.mem_append.mp member with old | new
  · exact addedAsk event old
  · exact ask event new

theorem AsksFirst.traced {before after : World} {files : Folder}
    (asks : AsksFirst before after files) : before.Continues after := by
  obtain ⟨others, call, rest, events, -, -⟩ := asks
  exact ⟨others ++ .asked call files :: rest, by rw [events, List.append_assoc]⟩

theorem AsksFirst.critiqued {before after : World} {files : Folder}
    (asks : AsksFirst before after files) (fresh : before.events = []) :
    Event.firstCritique? after.events = some files := by
  obtain ⟨others, call, rest, events, ask, critic⟩ := asks
  rw [events, fresh, List.nil_append]
  exact Event.firstCritique?_asked ask critic

section
variable {context : CycleContext} {iteration : Nat} {world last : World}

theorem critique_asksFirst {review : Review}
    (ran : critique context iteration world = (.ok review, last)) :
    AsksFirst world last world.files := by
  obtain ⟨prompt, answer, after, store, -, answered, -, -, rfl⟩ := critique_ok_iff.1 ran
  rcases AgentCall.run_leaves answered with ⟨impossible, -⟩ | ⟨⟨-, tried, -, events⟩, -⟩
  · cases impossible
  · refine ⟨[critiqueLine context iteration], critiqueCall context (context.folder world) prompt,
      tried ++ .answered (critiqueCall context (context.folder world) prompt) answer true
        after.files :: critiqueWarnings answer, ?_, ?_, rfl⟩
    · simp [events, AgentCall.ending]
    · simp [critiqueLine, Event.AsksOnly]

theorem challengeStep_continues {result : Except Stop (StepEnd Review)}
    (ran : challengeStep context iteration world = (result, last)) : world.Continues last := by
  rcases challengeStep_cases ran with ⟨aside, -⟩ | ⟨review, kept, made, aside, -⟩
  · exact (aside context.changeId (fun _ => True) trivial).continues
  · have begun : world.Aside context.changeId (fun _ => True)
      (world.logs (stepEvent context "challenge" "started")) := .logs
    refine begun.continues.trans ((critique_asksFirst made).traced.trans ?_)
    exact (aside context.changeId fun _ => True).continues

/-- Without a verdict there is no question to the critic first; with one there is. -/
theorem challengeStep_asksFirst {ending : StepEnd Review}
    (ran : challengeStep context iteration world = (.ok ending, last)) :
    AsksFirst world last world.files ∨
      ∃ failure, ending = .ended (.ofFailure "challenge" failure) := by
  rcases challengeStep_cases ran with ⟨-, ⟨_, impossible⟩ | ⟨failure, same⟩⟩ |
    ⟨review, kept, made, aside, -⟩
  · cases impossible
  · cases same
    exact .inr ⟨failure, rfl⟩
  · have begun : world.Aside context.changeId (· ≠ .critic)
      (world.logs (stepEvent context "challenge" "started")) := .logs
    have later := (aside context.changeId fun _ => True).continues
    exact .inl (.after begun ((critique_asksFirst made).continues later))

/-- A round goes on with the trace.  One that ends with a verdict begins with a question to the
critic about the files as they are. -/
theorem critiquesFrom_asksFirst {left : Nat} {result : Except Stop (Option CycleOutcome)}
    (ran : critiquesFrom context iteration left world = (result, last)) :
    world.Continues last ∧
      ∀ outcome, result = .ok (some outcome) →
        (∀ kind step message, outcome ≠ .error kind step message) →
          AsksFirst world last world.files := by
  induction left generalizing iteration world with
  | zero =>
      cases ran
      exact ⟨⟨[], by simp⟩, by simp⟩
  | succ left ih =>
      unfold critiquesFrom at ran
      rcases Run.bind_cases ran with ⟨_, stopped, rfl⟩ | ⟨ending, after, challenged, ran⟩
      · exact ⟨challengeStep_continues stopped, by simp⟩
      have rest : after.Continues last := by
        cases ending with
        | ended outcome =>
            cases ran
            exact ⟨[], by simp⟩
        | done review =>
            have revising : Run.IsAside context.changeId (fun _ => True)
                (reviseStep context iteration review) := reviseStep_isAside trivial _ _ _
            rcases Run.bind_cases ran with ⟨_, stopped, -⟩ | ⟨ending, revised, begun, ran⟩
            · exact (revising.aside stopped).continues
            · refine (revising.aside begun).continues.trans ?_
              cases ending with
              | ended outcome =>
                  cases ran
                  exact ⟨[], by simp⟩
              | done _ => exact (ih ran).1
      refine ⟨(challengeStep_continues challenged).trans rest, ?_⟩
      intro outcome same judged
      rcases challengeStep_asksFirst challenged with asks | ⟨failure, rfl⟩
      · exact asks.continues rest
      · cases same
        cases ran
        obtain ⟨kind, step, message, same⟩ := ofFailure_isError "challenge" failure
        exact absurd same (judged kind step message)

end

/-! ### Rounds that end with a verdict -/

/-- What a round that ended with a verdict leaves: the records confirm the outcome, and the critic
was first asked about valid documents. -/
structure Judged (context : CycleContext) (before after : World) (outcome : CycleOutcome) :
    Prop where
  recorded : IsRecorded context.changeId context.policy after.store outcome
  asked : ∃ files, AsksFirst before after files ∧ ChangeFolder.IsValid ⟨context.place, files⟩

section
variable {context : CycleContext} {world last : World} {outcome : CycleOutcome}

/-- A step whose body never ends the cycle ends it with an error only. -/
theorem runStep_ended {name : String} {body : Run (StepEnd α)}
    (goesOn : ∀ begun ending after, body begun = (.ok ending, after) →
      ∃ value, ending = .done value)
    (ran : runStep context name body world = (.ok (.ended outcome), last)) :
    ∃ kind step message, outcome = .error kind step message := by
  rcases runStep_cases ran with ⟨ending, after, body, same, -⟩ | ⟨failure, _, _, -, same, -⟩ |
    ⟨_, _, _, _, _, impossible, -⟩
  · obtain ⟨value, rfl⟩ := goesOn _ _ _ body
    cases same
  · cases same
    exact ofFailure_isError name failure
  · cases impossible

theorem validateStep_ended (ran : validateStep context world = (.ok (.ended outcome), last)) :
    ∃ kind step message, outcome = .error kind step message := by
  refine runStep_ended ?_ ran
  intro begun ending after body
  obtain ⟨validation, _, -, body⟩ := Run.bind_ok body
  obtain ⟨_, _, -, body⟩ := Run.bind_ok body
  cases failed : validation.failure? with
  | some failure =>
      rw [failed] at body
      cases body
  | none =>
      rw [failed] at body
      cases body
      exact ⟨(), rfl⟩

theorem generateStep_ended (ran : generateStep context world = (.ok (.ended outcome), last)) :
    ∃ kind step message, outcome = .error kind step message := by
  refine runStep_ended ?_ ran
  intro begun ending after body
  obtain ⟨_, _, -, body⟩ := Run.bind_ok body
  obtain ⟨_, _, -, body⟩ := Run.bind_ok body
  obtain ⟨_, _, -, body⟩ := Run.bind_ok body
  obtain ⟨_, _, -, body⟩ := Run.bind_ok body
  cases body
  exact ⟨(), rfl⟩

/-- A check and a round that end with a verdict ask the critic about the documents as they are. -/
theorem challengePlan_judged (ran : challengePlan context world = (.ok outcome, last))
    (judged : ∀ kind step message, outcome ≠ .error kind step message)
    (proposed : (world.store.standing context.changeId).1 = some .proposed)
    (some_critique : 1 ≤ context.policy.planningIterations) :
    IsRecorded context.changeId context.policy last.store outcome ∧
      AsksFirst world last world.files ∧ (context.folder world).IsValid := by
  unfold challengePlan at ran
  obtain ⟨ending, checked, begun, ran⟩ := Run.bind_ok ran
  have checking : Run.IsAside context.changeId (· ≠ .critic) (validateStep context) :=
    validateStep_isAside context
  have earlier := checking.aside begun
  cases ending with
  | ended failed =>
      cases ran
      obtain ⟨kind, step, message, same⟩ := validateStep_ended begun
      exact absurd same (judged kind step message)
  | done _ =>
      obtain ⟨validation, valid, fine, rfl⟩ := validateStep_done_iff.1 begun
      unfold critiqueRound at ran
      obtain ⟨ended, after, round, ran⟩ := Run.bind_ok ran
      cases ran
      have standing := earlier.standing
      rw [Prod.ext_iff] at standing
      obtain ⟨outcome, rfl, recorded⟩ := critiquesFrom_recorded round
        (standing.1.trans proposed) (by omega) (by omega)
      refine ⟨recorded, ?_, validation, valid, fine⟩
      exact .after earlier ((critiquesFrom_asksFirst round).2 outcome rfl judged)

theorem makePlan_judged (ran : makePlan context world = (.ok outcome, last))
    (judged : ∀ kind step message, outcome ≠ .error kind step message)
    (proposed : (world.store.standing context.changeId).1 = some .proposed)
    (some_critique : 1 ≤ context.policy.planningIterations) :
    Judged context world last outcome := by
  unfold makePlan at ran
  obtain ⟨ending, written, begun, ran⟩ := Run.bind_ok ran
  have writing : Run.IsAside context.changeId (· ≠ .critic) (generateStep context) :=
    generateStep_isAside (by decide) context
  have earlier := writing.aside begun
  cases ending with
  | ended failed =>
      cases ran
      obtain ⟨kind, step, message, same⟩ := generateStep_ended begun
      exact absurd same (judged kind step message)
  | done _ =>
      have standing := earlier.standing
      rw [Prod.ext_iff] at standing
      obtain ⟨recorded, asks, valid⟩ :=
        challengePlan_judged ran judged (standing.1.trans proposed) some_critique
      exact ⟨recorded, _, .after earlier asks, valid⟩

/-- A cycle that ends with a verdict asks the critic and is judged, or it asks nobody. -/
theorem runCycle_judged {phase : Phase}
    (ran : runCycle context phase world = (.ok outcome, last))
    (judged : ∀ kind step message, outcome ≠ .error kind step message)
    (current : (world.store.standing context.changeId).1 = some phase)
    (some_critique : 1 ≤ context.policy.planningIterations) :
    Judged context world last outcome ∨ world.Aside context.changeId (· ≠ .critic) last := by
  have looking : Run.IsAside context.changeId (· ≠ .critic) (onlyValidates context phase) :=
    onlyValidates_isAside context phase
  unfold runCycle at ran
  obtain ⟨only, looked, begun, ran⟩ := Run.bind_ok ran
  have earlier := looking.aside begun
  cases only with
  | true =>
      have showing : Run.IsAside context.changeId (· ≠ .critic)
          (Run.say "[dim]All artifacts present; validating only[/dim]" >>= fun _ =>
            outcomeFromRecords context phase) :=
        .bind (.say _) fun _ => outcomeFromRecords_isAside context phase
      exact .inr (earlier.trans (showing.aside ran))
  | false =>
      obtain rfl := proposed_of_not_onlyValidates begun
      have standing := earlier.standing
      rw [Prod.ext_iff] at standing
      obtain ⟨recorded, files, asks, valid⟩ :=
        makePlan_judged ran judged (standing.1.trans current) some_critique
      exact .inl ⟨recorded, files, .after earlier asks, valid⟩

theorem runChallenge_judged {phase : Phase}
    (ran : runChallenge context phase world = (.ok outcome, last))
    (judged : ∀ kind step message, outcome ≠ .error kind step message)
    (current : (world.store.standing context.changeId).1 = some phase)
    (some_critique : 1 ≤ context.policy.planningIterations) :
    Judged context world last outcome := by
  unfold runChallenge at ran
  split at ran
  · rename_i proposed
    obtain ⟨recorded, asks, valid⟩ :=
      challengePlan_judged ran judged (by rw [current, proposed]) some_critique
    exact ⟨recorded, _, asks, valid⟩
  · cases ran
    exact absurd rfl (judged _ _ _)

/-! ### The outcome from the records -/

theorem onlyValidates_of_valid {phase : Phase} (valid : (context.folder world).IsValid) :
    onlyValidates context phase world = (.ok true, world) := by
  unfold onlyValidates
  split
  · rfl
  · refine (Run.bind_of_ok (Run.look_apply context.folder world)).trans ?_
    rw [Run.ofFiles_apply, valid.isWritten]
    rfl

/-- The records give an outcome to a change whose documents are valid: that of its phase, or that
of its last critique if it is proposed. -/
theorem outcomeFromRecords_of_valid (phase : Phase) (valid : (context.folder world).IsValid) :
    ∃ shown, (∀ event ∈ shown, event.IsShown) ∧
      outcomeFromRecords context phase world =
        (.ok (if phase = .rejected then .rejected
          else if phase = .proposed then
            proposedOutcome context.policy (world.store.latestCritique? context.changeId)
          else .approved), world.shows shown) := by
  obtain ⟨validation, checked, fine⟩ := valid
  unfold outcomeFromRecords
  rw [Run.bind_of_ok (Run.look_apply _ world)]
  by_cases rejected : phase = .rejected
  · rw [if_pos rejected, if_pos rejected]
    exact ⟨[], by simp, by simp⟩
  · rw [if_neg rejected, if_neg rejected]
    refine ⟨skippedWarnings (context.folder world), ?_, ?_⟩
    · intro event member
      obtain ⟨text, -, rfl⟩ := List.mem_map.mp member
      trivial
    · rw [Run.bind_of_ok (validated_ok_iff.2 ⟨checked, rfl⟩)]
      simp only [fine, Bool.not_true, Bool.false_eq_true, if_false]
      by_cases proposed : phase = .proposed
      · simp [proposed]
      · simp [proposed]

/-- The line of a cycle that only checks. -/
def validatingLine : Event := .line "[dim]All artifacts present; validating only[/dim]"

/-- An outcome that the records confirm is the one that is read from them. -/
theorem runCycle_of_recorded {phase : Phase}
    (recorded : IsRecorded context.changeId context.policy world.store outcome)
    (judged : ∀ kind step message, outcome ≠ .error kind step message)
    (current : (world.store.standing context.changeId).1 = some phase)
    (valid : (context.folder world).IsValid) :
    ∃ shown, (∀ event ∈ shown, event.IsShown) ∧
      runCycle context phase world = (.ok outcome, world.shows shown) := by
  have read : (if phase = .rejected then .rejected
      else if phase = .proposed then
        proposedOutcome context.policy (world.store.latestCritique? context.changeId)
      else .approved) = outcome := by
    cases outcome with
    | approved =>
        cases current.symm.trans recorded
        rfl
    | rejected =>
        cases current.symm.trans recorded
        rfl
    | exhausted issues =>
        obtain ⟨entry, standing, verdict, named, rfl, spent⟩ := recorded
        rw [standing] at current
        cases current
        have latest : world.store.latestCritique? context.changeId = some entry :=
          congrArg Prod.snd standing
        have open_entry : (entry.verdict == Verdict.needsRevision.word && !entry.issues.isEmpty) =
            true := by simp [verdict, named]
        unfold proposedOutcome
        rw [latest, Option.filter_some, if_pos open_entry]
        simp [Int.not_lt.mpr spent]
    | error kind step message => exact absurd rfl (judged kind step message)
  have again : (context.folder (world.shows [validatingLine])).IsValid := valid
  obtain ⟨shown, quiet, outcomes⟩ := outcomeFromRecords_of_valid phase again
  rw [World.store_shows, read, World.shows_shows] at outcomes
  refine ⟨[validatingLine] ++ shown, ?_, ?_⟩
  · intro event member
    rcases List.mem_append.mp member with first | later
    · rw [List.mem_singleton.mp first]
      trivial
    · exact quiet event later
  · unfold runCycle
    rw [Run.bind_of_ok (onlyValidates_of_valid valid), if_pos rfl,
      Run.bind_of_ok (Run.say_apply _ world)]
    exact outcomes

end

end Cycle

namespace Project

variable {project : Project} {root : Path} {id : String} {means : Means}

/-- What is left after a cycle or a round of critiques that asked the critic and ended with a
verdict: records that confirm the outcome, beside the documents as they were checked. -/
theorem judged_of_report {first : Report CycleOutcome} {outcome : CycleOutcome} {checked : Folder}
    (begun : first = project.cycle root id means ∨ first = project.challenge root id means)
    (ended : first.result = .ok outcome)
    (judged : ∀ kind step message, outcome ≠ .error kind step message)
    (some_critique :
      1 ≤ (means.policy.getD (.ofSettings project.settings)).planningIterations)
    (criticised : Event.firstCritique? first.events = some checked) :
    ∃ last : World, first.project = project.setState (project.place root id)
        { files := last.files, store := some last.store } ∧
      Cycle.IsRecorded id (means.policy.getD (.ofSettings project.settings)) last.store outcome ∧
      ChangeFolder.IsValid ⟨project.place root id, checked⟩ ∧ project.HasPlayers means ∧
      ∃ lister, SessionLister.standard? project.settings = some lister := by
  have finish {context : CycleContext} {phase : Phase} {store : Store} {ready last : World}
      (prepared : project.prepare root id means (project.start root id means store) =
        (.ok (context, phase), ready))
      (went : (ready.store.standing context.changeId).1 = some phase →
        1 ≤ context.policy.planningIterations →
        Cycle.Judged context ready last outcome ∨ ready.Aside context.changeId (· ≠ .critic) last)
      (asked : Event.firstCritique? last.events = some checked) :
      Cycle.IsRecorded id (means.policy.getD (.ofSettings project.settings)) last.store outcome ∧
        ChangeFolder.IsValid ⟨project.place root id, checked⟩ ∧ project.HasPlayers means ∧
        ∃ lister, SessionLister.standard? project.settings = some lister := by
    obtain ⟨sameId, current⟩ := prepare_current prepared
    obtain ⟨change, cast, lister, -, played, listed, resumable, rfl, -, rfl⟩ :=
      prepare_ok_iff.1 prepared
    obtain rfl := sameId
    rcases went current some_critique with ⟨recorded, files, asks, valid⟩ | aside
    · obtain rfl : files = checked := Option.some.inj ((asks.critiqued rfl).symm.trans asked)
      exact ⟨recorded, valid, ⟨cast, played, resumable⟩, lister, listed⟩
    · obtain ⟨added, events, others⟩ := aside.traced
      rw [events, show (_ : World).events = [] from rfl, List.nil_append,
        Event.firstCritique?_of_others others] at asked
      cases asked
  rcases begun with rfl | rfl
  · obtain ⟨store, context, phase, ready, last, -, prepared, went, whole⟩ := onceReady_ok ended
    rw [cycle_eq, whole] at criticised ⊢
    refine ⟨last, rfl, finish prepared ?_ criticised⟩
    exact fun current enough => Cycle.runCycle_judged went judged current enough
  · obtain ⟨store, context, phase, ready, last, -, prepared, went, whole⟩ := onceReady_ok ended
    rw [challenge_eq, whole] at criticised ⊢
    refine ⟨last, rfl, finish prepared ?_ criticised⟩
    exact fun current enough => .inl (Cycle.runChallenge_judged went judged current enough)

/-- **A cycle after a verdict repeats its outcome and does nothing else.**  The first run is a cycle
or a round of critiques that asked the critic and gave no error.  If no file but that of the
critiques differs from what was checked, a cycle under the same policy, with the same players or
others that are able, gives the same outcome, asks nobody, runs no program and leaves all files and
records as they are. -/
theorem rerun_agrees {first : Report CycleOutcome} {outcome : CycleOutcome} {checked : Folder}
    {again : Means}
    (begun : first = project.cycle root id means ∨ first = project.challenge root id means)
    (ended : first.result = .ok outcome)
    (judged : ∀ kind step message, outcome ≠ .error kind step message)
    (some_critique :
      1 ≤ (means.policy.getD (.ofSettings project.settings)).planningIterations)
    (criticised : Event.firstCritique? first.events = some checked)
    (untouched : Folder.AgreesExcept (Artifact.file .challenge) checked
      (first.project.state (project.place root id)).files)
    (samePolicy : again.policy = means.policy)
    (able : again.cast = means.cast ∨ project.HasPlayers again) :
    (first.project.cycle root id again).result = .ok outcome ∧
      (∀ event ∈ (first.project.cycle root id again).events, event.IsShown) ∧
      (first.project.cycle root id again).project = first.project := by
  obtain ⟨last, left, recorded, valid, playable, lister, listed⟩ :=
    judged_of_report begun ended judged some_critique criticised
  obtain ⟨cast, played, resumable⟩ : project.HasPlayers again := by
    rcases able with same | others
    · exact playable.of_cast same
    · exact others
  obtain ⟨change, found⟩ := recorded.onRecord judged
  obtain rfl : change.id = id := Store.id_of_find? found
  rw [left] at untouched ⊢
  rw [state_setState] at untouched
  -- The second cycle starts from what the first run left.
  generalize afterFirst : project.setState (project.place root change.id)
    { files := last.files, store := some last.store } = later
  have stands : later.state (project.place root change.id) =
      { files := last.files, store := some last.store } := by
    rw [← afterFirst, state_setState]
  have samePlace : later.place root change.id = project.place root change.id := by
    rw [← afterFirst, place_setState]
  have sameSettings : later.settings = project.settings := by
    rw [← afterFirst]
    rfl
  have samePlayers : later.players again = project.players again := by
    rw [← afterFirst]
    rfl
  have kept : later.records root change.id = some last.store := by
    rw [records, samePlace, stands]
  let context := later.context root change cast again lister
  let ready : World := { later.start root change.id again last.store with agents := cast.agents }
  have prepared : later.prepare root change.id again (later.start root change.id again last.store) =
      (.ok (context, change.phase), ready) :=
    prepare_ok_iff.2 ⟨change, cast, lister, found, samePlayers.trans played,
      sameSettings ▸ listed, resumable, rfl, rfl, rfl⟩
  have startFiles : ready.files = last.files := by
    change (later.state (later.place root change.id)).files = last.files
    rw [samePlace, stands]
  have confirmed : Cycle.IsRecorded context.changeId context.policy ready.store outcome := by
    change Cycle.IsRecorded change.id (again.policy.getD (.ofSettings later.settings)) last.store
      outcome
    rw [samePolicy, sameSettings]
    exact recorded
  have current : (ready.store.standing context.changeId).1 = some change.phase := by
    change (last.store.standing change.id).1 = some change.phase
    simp [Store.standing, found]
  have stillValid : (context.folder ready).IsValid := by
    change ChangeFolder.IsValid ⟨later.place root change.id, ready.files⟩
    rw [samePlace, startFiles]
    exact valid.congr untouched
  obtain ⟨shown, quiet, went⟩ :=
    Cycle.runCycle_of_recorded confirmed judged current stillValid
  rw [cycle_eq, within_onceReady kept prepared went]
  refine ⟨rfl, ?_, ?_⟩
  · intro event member
    exact quiet event (by simpa [ready, start] using member)
  · change later.setState (later.place root change.id)
      { files := ready.files, store := some last.store } = later
    rw [samePlace, startFiles, ← afterFirst, setState_setState]

end Project

namespace TwoTurns

/-- After an objection, a revision and an approval a cycle finds the plan approved. -/
theorem rerun_approves :
    let first := project.challenge root change.id means
    (first.project.cycle root change.id means).result = .ok .approved ∧
      (∀ event ∈ (first.project.cycle root change.id means).events, event.IsShown) ∧
      (first.project.cycle root change.id means).project = first.project := by
  let store : Store := { changes := [change] }
  obtain ⟨kept, shown, ran, -⟩ := Cycle.runChallenge_gives (fun _ _ _ _ => rfl) reached
    dialogue (ChangeFolder.leastPlan_isValid _) (by decide) found rfl rfl (by decide) rfl []
  rw [roundOutcome_turn] at ran
  have judged (kind : FailureKind) (step message : String) :
      CycleOutcome.approved ≠ .error kind step message := nofun
  have prepared : project.prepare root change.id means (project.start root change.id means store) =
      (.ok (context, .proposed), (turn 1).before.world store []) :=
    Project.prepare_ok_iff.2 ⟨change, cast, lister, found, played, listed, rfl, rfl, rfl, rfl⟩
  have whole : project.challenge root change.id means = _ :=
    Project.within_onceReady recorded prepared ran
  obtain ⟨-, asks, -⟩ := Cycle.challengePlan_judged ran judged rfl (by decide)
  have criticised : Event.firstCritique? (project.challenge root change.id means).events =
      some ChangeFolder.leastPlan := by
    rw [whole]
    exact asks.critiqued rfl
  have untouched : Folder.AgreesExcept (Artifact.file .challenge) ChangeFolder.leastPlan
      ((project.challenge root change.id means).project.state
        (project.place root change.id)).files := by
    rw [whole, Project.state_setState]
    exact ChangeFolder.criticisedPlan_agrees _
  refine Project.rerun_agrees (.inr rfl) ?_ judged (by decide) criticised untouched rfl (.inl rfl)
  rw [whole]

end TwoTurns

end PlanCycle
