/-
Module: PlanCycle.Proofs.PhaseOutcome
Purpose: The phase of a change after a run that gave an outcome: it fits the outcome, and only a
  verdict on a proposed plan has moved it.
Main exports:
  CycleOutcome.Leaves, CycleOutcome.Moves, Cycle.critiquesFrom_phase, Project.phase_fits_outcome
-/
import PlanCycle.Proofs.ValidatingCycle

namespace PlanCycle

/-! ### Outcomes and phases -/

namespace CycleOutcome

/-- Whether an outcome goes with the phases before and after its run. -/
def Leaves (outcome : CycleOutcome) (before after : Phase) : Prop :=
  match outcome with
  | .approved => after ∈ Phase.approved
  | .rejected => after = .rejected
  | .exhausted _ => after = before
  | .error .. => after = before

/-- What a run does to the phase: that fits the outcome, and moves only from a proposed plan to one
that the outcome approves or rejects. -/
structure Moves (outcome : CycleOutcome) (before after : Phase) : Prop where
  leaves : outcome.Leaves before after
  moved : after ≠ before → before = .proposed ∧
    (after = .challenged ∧ outcome = .approved ∨ after = .rejected ∧ outcome = .rejected)

/-- The phase that an outcome gives to a proposed plan fits it. -/
theorem moves_of_proposed (outcome : CycleOutcome) : outcome.Moves .proposed outcome.phase := by
  cases outcome with
  | approved => exact ⟨List.mem_cons_self, fun _ => ⟨rfl, .inl ⟨rfl, rfl⟩⟩⟩
  | rejected => exact ⟨rfl, fun _ => ⟨rfl, .inr ⟨rfl, rfl⟩⟩⟩
  | exhausted issues => exact ⟨rfl, fun moved => absurd rfl moved⟩
  | error kind step message => exact ⟨rfl, fun moved => absurd rfl moved⟩

/-- The outcome of a step that failed gives a proposed plan no other phase. -/
@[simp] theorem phase_ofFailure (step : String) (failure : Failure) :
    (ofFailure step failure).phase = .proposed := by
  obtain ⟨kind, call, message, same⟩ := Cycle.ofFailure_isError step failure
  rw [same]
  rfl

end CycleOutcome

namespace Cycle

/-- An outcome that is read from the records fits the phase that is on record. -/
theorem ReadsAs.moves {folder : ChangeFolder} {policy : CyclePolicy}
    {latest : Option ReviewEntry} {phase : Phase} {outcome : CycleOutcome}
    (reads : ReadsAs folder policy latest phase outcome) : outcome.Moves phase phase := by
  refine ⟨?_, fun moved => absurd rfl moved⟩
  cases outcome with
  | approved => exact reads.of_approved.1
  | rejected =>
      cases reads with
      | rejected => exact rfl
      | proposed valid same =>
          rcases proposedOutcome_cases policy latest with ⟨_, _, _, _, _, spent⟩ | ⟨_, failed⟩
          · cases same.trans spent
          · cases same.trans failed
  | exhausted issues => exact rfl
  | error kind step message => exact rfl

/-! ### Rounds of critiques -/

/-- The phase of a plan that was proposed before a step. -/
def phaseAfter {α : Type} : StepEnd α → Phase
  | .done _ => .proposed
  | .ended outcome => outcome.phase

section
variable {context : CycleContext} {iteration : Nat} {world last : World}

/-- A critique that is kept ends its step as its verdict decides, or fails if that cannot be
applied. -/
theorem challengeStep_of_kept {review : Review} {kept : World} {ending : StepEnd Review}
    (made : critique context iteration (world.logs (stepEvent context "challenge" "started")) =
      (.ok review, kept))
    (ran : challengeStep context iteration world = (.ok ending, last)) :
    (isApplicable review = true ∧ ending = verdictEnd review) ∨
      (isApplicable review = false ∧
        ∃ failure, ending = .ended (.ofFailure "challenge" failure)) := by
  cases refusal : review.refusal? with
  | some failure =>
      obtain ⟨-, ⟨_, impossible⟩ | ⟨failure, same⟩⟩ :=
        runStep_of_error ((Run.bind_of_ok made).trans (applyCritique_of_refused refusal)) ran
      · cases impossible
      cases same
      refine .inr ⟨Bool.eq_false_iff.mpr fun applicable => ?_, failure, rfl⟩
      rw [Review.refusal?_eq_none_iff.2 applicable] at refusal
      cases refusal
  | none =>
      cases filed : kept.files.append (Artifact.file .challenge)
          (critiqueBlock context iteration review) with
      | ok files =>
          rw [challengeStep_of_applied made refusal filed] at ran
          cases ran
          exact .inl ⟨Review.refusal?_eq_none_iff.1 refusal, rfl⟩
      | error fault =>
          -- A file that cannot be written breaks the step off, so it has no end.
          have stopped : applyCritique context iteration review kept = _ :=
            applyCritique_of_applied refusal
          rw [filed] at stopped
          have broken : challengeStep context iteration world = _ :=
            runStep_of_breakdown ((Run.bind_of_ok made).trans stopped)
          rw [broken] at ran
          cases ran

/-- The step of a critique leaves a proposed plan in the phase of its end. -/
theorem challengeStep_phase {ending : StepEnd Review}
    (ran : challengeStep context iteration world = (.ok ending, last))
    (proposed : (world.store.standing context.changeId).1 = some .proposed) :
    (last.store.standing context.changeId).1 = some (phaseAfter ending) := by
  rcases challengeStep_cases ran with ⟨aside, ⟨_, impossible⟩ | ⟨failure, same⟩⟩ |
    ⟨review, kept, made, aside, -⟩
  · cases impossible
  · cases same
    rw [(aside context.changeId (fun _ => True) trivial).standing, proposed]
    simp [phaseAfter]
  obtain ⟨change, found, -, standing⟩ := standing_critique made
  have phase : change.phase = .proposed := by
    rw [World.store_logs, Store.find?_logged] at found
    simpa [Store.standing, found] using proposed
  have stands := (aside context.changeId fun _ => True).standing
  rw [standing, phase] at stands
  rw [stands]
  rcases challengeStep_of_kept made ran with ⟨applicable, rfl⟩ | ⟨refused, failure, rfl⟩
  · unfold Review.nextPhase verdictEnd
    rw [if_pos applicable]
    cases review.verdict with
    | approved => rfl
    | rejected => rfl
    | needsRevision => rfl
    | unknown => rfl
  · simp [Review.nextPhase, refused, phaseAfter]

theorem reviseStep_phase {review : Review} {ending : StepEnd Unit}
    (ran : reviseStep context iteration review world = (.ok ending, last)) :
    phaseAfter ending = .proposed := by
  rcases reviseStep_cases ran with ⟨rfl, -⟩ | ⟨rfl, -⟩ | ⟨failure, rfl⟩
  · rfl
  · rfl
  · simp [phaseAfter]

/-- Critiques and revisions in turn leave a proposed plan in the phase of their outcome, or
proposed if they have none. -/
theorem critiquesFrom_phase {left : Nat} {outcome : Option CycleOutcome}
    (ran : critiquesFrom context iteration left world = (.ok outcome, last))
    (proposed : (world.store.standing context.changeId).1 = some .proposed) :
    (last.store.standing context.changeId).1 = some (outcome.elim .proposed CycleOutcome.phase) := by
  induction left generalizing iteration world with
  | zero =>
      cases ran
      exact proposed
  | succ left ih =>
      unfold critiquesFrom at ran
      obtain ⟨ending, after, challenged, ran⟩ := Run.bind_ok ran
      have criticised := challengeStep_phase challenged proposed
      cases ending with
      | ended outcome =>
          cases ran
          exact criticised
      | done review =>
          obtain ⟨ending, revised, begun, ran⟩ := Run.bind_ok ran
          have revising : Run.IsAside context.changeId (fun _ => True)
              (reviseStep context iteration review) := reviseStep_isAside trivial _ _ _
          have still := (congrArg Prod.fst (revising.aside begun).standing).trans criticised
          have phase := reviseStep_phase begun
          cases ending with
          | ended outcome =>
              cases ran
              rw [still]
              exact congrArg some phase.symm
          | done _ => exact ih ran still

/-! ### Planning runs -/

variable {outcome : CycleOutcome}

/-- A check and a round leave a proposed plan in the phase of their outcome. -/
theorem challengePlan_phase (ran : challengePlan context world = (.ok outcome, last))
    (proposed : (world.store.standing context.changeId).1 = some .proposed) :
    (last.store.standing context.changeId).1 = some outcome.phase := by
  unfold challengePlan at ran
  obtain ⟨ending, checked, begun, ran⟩ := Run.bind_ok ran
  have checking : Run.IsAside context.changeId (fun _ => True) (validateStep context) :=
    validateStep_isAside context
  have still := (congrArg Prod.fst (checking.aside begun).standing).trans proposed
  cases ending with
  | ended failed =>
      cases ran
      obtain ⟨kind, step, message, rfl⟩ := validateStep_ended begun
      exact still
  | done _ =>
      unfold critiqueRound at ran
      obtain ⟨ended, after, round, ran⟩ := Run.bind_ok ran
      cases ran
      rw [critiquesFrom_phase round still]
      cases ended with
      | none => rfl
      | some outcome => rfl

theorem makePlan_phase (ran : makePlan context world = (.ok outcome, last))
    (proposed : (world.store.standing context.changeId).1 = some .proposed) :
    (last.store.standing context.changeId).1 = some outcome.phase := by
  unfold makePlan at ran
  obtain ⟨ending, written, begun, ran⟩ := Run.bind_ok ran
  have writing : Run.IsAside context.changeId (fun _ => True) (generateStep context) :=
    generateStep_isAside trivial context
  have still := (congrArg Prod.fst (writing.aside begun).standing).trans proposed
  cases ending with
  | ended failed =>
      cases ran
      obtain ⟨kind, step, message, rfl⟩ := generateStep_ended begun
      exact still
  | done _ => exact challengePlan_phase ran still

/-- A planning cycle leaves a change in a phase that fits its outcome. -/
theorem runCycle_moves {phase : Phase} (ran : runCycle context phase world = (.ok outcome, last))
    (current : (world.store.standing context.changeId).1 = some phase) :
    ∃ after, (last.store.standing context.changeId).1 = some after ∧ outcome.Moves phase after := by
  have looking : Run.IsAside context.changeId (fun _ => True) (onlyValidates context phase) :=
    onlyValidates_isAside context phase
  unfold runCycle at ran
  obtain ⟨only, looked, begun, ran⟩ := Run.bind_ok ran
  have still := (congrArg Prod.fst (looking.aside begun).standing).trans current
  cases only with
  | true =>
      rw [if_pos rfl, Run.bind_of_ok (Run.say_apply _ looked)] at ran
      have reading : Run.IsAside context.changeId (fun _ => True)
        (outcomeFromRecords context phase) := outcomeFromRecords_isAside context phase
      refine ⟨phase, ?_, (outcomeFromRecords_readsAs ran).moves⟩
      rw [(reading.aside ran).standing, World.store_shows, still]
  | false =>
      obtain rfl := proposed_of_not_onlyValidates begun
      exact ⟨_, makePlan_phase ran still, outcome.moves_of_proposed⟩

/-- A round of critiques leaves a change in a phase that fits its outcome. -/
theorem runChallenge_moves {phase : Phase}
    (ran : runChallenge context phase world = (.ok outcome, last))
    (current : (world.store.standing context.changeId).1 = some phase) :
    ∃ after, (last.store.standing context.changeId).1 = some after ∧ outcome.Moves phase after := by
  unfold runChallenge at ran
  split at ran
  · rename_i proposed
    subst proposed
    exact ⟨_, challengePlan_phase ran current, outcome.moves_of_proposed⟩
  · cases ran
    exact ⟨phase, current, rfl, fun moved => absurd rfl moved⟩

end

end Cycle

namespace Project

open PlanCycle.Cycle

variable {project : Project} {root : Path} {id : String} {means : Means} {outcome : CycleOutcome}

/-- What leaves a change in a fitting phase once a cycle is ready does so in its project. -/
theorem phase_of_onceReady {body : CycleContext → Phase → Run CycleOutcome}
    (moves : ∀ {context phase world last},
      body context phase world = (.ok outcome, last) →
      (world.store.standing context.changeId).1 = some phase →
      ∃ after, (last.store.standing context.changeId).1 = some after ∧ outcome.Moves phase after)
    (ended : (project.within root id means fun _ =>
      project.onceReady root id means body).result = .ok outcome) :
    ∃ before after, project.phase? root id = some before ∧
      (project.within root id means fun _ =>
        project.onceReady root id means body).project.phase? root id = some after ∧
      outcome.Moves before after := by
  obtain ⟨store, context, phase, ready, last, recorded, prepared, went, whole⟩ := onceReady_ok ended
  obtain ⟨rfl, current⟩ := prepare_current prepared
  obtain ⟨after, left, moved⟩ := moves went current
  have preparing : Run.IsAside context.changeId (fun _ => True)
      (project.prepare root context.changeId means) := prepare_isAside project root _ means
  refine ⟨phase, after, ?_, ?_, moved⟩
  · rw [phase?, recorded, Option.bind_some, ← current,
      (preparing.aside prepared).standing]
    rfl
  · rw [whole, phase?, records, place_setState, state_setState, Option.bind_some]
    exact left

/-- **The phase of a change fits the outcome of a run.**  After a planning cycle or a round of
critiques an approved plan is challenged or in a later phase, a rejected one is rejected, and after
an exhausted budget or an error the phase is what it was.  The phase moves only from a proposed
plan, and only to challenged if the plan is approved or to rejected if it is rejected. -/
theorem phase_fits_outcome {report : Report CycleOutcome}
    (run : report = project.cycle root id means ∨ report = project.challenge root id means)
    (ended : report.result = .ok outcome) :
    ∃ before after, project.phase? root id = some before ∧
      report.project.phase? root id = some after ∧
      outcome.Leaves before after ∧
      (after ≠ before → before = .proposed ∧
        (after = .challenged ∧ outcome = .approved ∨
          after = .rejected ∧ outcome = .rejected)) := by
  have fits : ∃ before after, project.phase? root id = some before ∧
      report.project.phase? root id = some after ∧ outcome.Moves before after := by
    rcases run with rfl | rfl
    · exact phase_of_onceReady runCycle_moves ended
    · exact phase_of_onceReady runChallenge_moves ended
  obtain ⟨before, after, known, left, moves⟩ := fits
  exact ⟨before, after, known, left, moves.leaves, moves.moved⟩

end Project

namespace TwoTurns

/-- The plan of the two turns is proposed before its critiques and challenged after them. -/
theorem approval_moves_phase :
    let report := project.challenge root change.id means
    report.result = .ok .approved ∧ project.phase? root change.id = some .proposed ∧
      report.project.phase? root change.id = some .challenged := by
  have ended : (project.challenge root change.id means).result = .ok .approved :=
    (challenge_result cast.agents).trans round_approves.1
  obtain ⟨before, after, known, left, fits, moved⟩ := Project.phase_fits_outcome (.inr rfl) ended
  have proposed : project.phase? root change.id = some .proposed := rfl
  obtain rfl := Option.some.inj (proposed.symm.trans known)
  have away : after ≠ .proposed := by
    rintro rfl
    exact absurd fits (by simp [CycleOutcome.Leaves, Phase.approved])
  obtain ⟨-, ⟨rfl, -⟩ | ⟨-, other⟩⟩ := moved away
  · exact ⟨ended, known, left⟩
  · cases other

end TwoTurns

end PlanCycle
