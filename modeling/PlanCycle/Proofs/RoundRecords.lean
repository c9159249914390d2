/-
Module: PlanCycle.Proofs.RoundRecords
Purpose: What a round of critiques adds to records and trace: its critiques, numbered in order, each
  for an answer of the critic that was accepted.
Main exports:
  Event.criticCalls, Cycle.Adds, Cycle.challengeStep_adds, Cycle.critiquesFrom_adds, Cycle.Plans,
  Cycle.Plans.adds
-/
import PlanCycle.Proofs.PhaseOutcome

namespace PlanCycle

/-! ### Accepted critiques -/

namespace Event

/-- How many answers of the critic a trace shows as accepted. -/
def criticCalls (events : List Event) : Nat :=
  (acceptedCalls events).countP fun call => decide (call.1 = .critic)

@[simp] theorem criticCalls_append (first second : List Event) :
    criticCalls (first ++ second) = criticCalls first + criticCalls second := by
  simp [criticCalls]

/-- Answers of others do not count. -/
theorem criticCalls_of_others {events : List Event}
    (others : ∀ event ∈ events, event.AsksOnly (· ≠ .critic)) : criticCalls events = 0 := by
  unfold criticCalls
  rw [List.countP_eq_zero]
  intro call member
  obtain ⟨event, among, accepted⟩ := List.mem_filterMap.mp member
  have other := others event among
  cases event with
  | answered asked answer taken files =>
      cases taken with
      | true =>
          cases accepted
          intro critic
          exact other (of_decide_eq_true critic)
      | false => cases accepted
  | asked call files => cases accepted
  | line text => cases accepted
  | panel title text => cases accepted
  | table title columns rows => cases accepted
  | warning text => cases accepted
  | ran spawn result => cases accepted

end Event

theorem World.Aside.criticCalls {id : String} {before after : World}
    (aside : before.Aside id (· ≠ .critic) after) :
    Event.criticCalls after.events = Event.criticCalls before.events := by
  obtain ⟨added, events, others⟩ := aside.traced
  rw [events, Event.criticCalls_append, Event.criticCalls_of_others others, Nat.add_zero]

/-- A call that gives no answer has none accepted. -/
theorem AgentCall.acceptedCalls_of_error {call : AgentCall} {context : CycleContext}
    {accept : Folder → AgentAnswer → Bool} {world last : World} {reason : Stop}
    (ran : call.run context accept world = (.error reason, last)) :
    Event.acceptedCalls last.events = Event.acceptedCalls world.events := by
  rcases AgentCall.run_leaves ran with ⟨-, rfl⟩ | ⟨⟨-, tried, attempts, events⟩, -⟩
  · rfl
  · have none_tried : Event.acceptedCalls tried = [] :=
      Event.acceptedCalls_of_shown fun event member => (attempts event member).accepted?
    have asked : Event.acceptedCalls (.asked call world.files :: tried) =
        Event.acceptedCalls tried := rfl
    rw [events, Event.acceptedCalls_append, Event.acceptedCalls_append, asked, none_tried]
    simp [AgentCall.ending]

/-- Whether a critique on record wants changes and names an issue. -/
def ReviewEntry.IsOpen (entry : ReviewEntry) : Prop :=
  entry.verdict = Verdict.needsRevision.word ∧ entry.issues ≠ []

/-- The text of the line before a critique. -/
def critiqueText (id : String) (iteration : Nat) : String :=
  "[cyan]Challenging " ++ id ++ " (iteration " ++ toString iteration ++ ")...[/cyan]"

namespace Cycle

/-! ### What critiques add -/

/-- What critiques of a change add from the one with a given number on, as many as are left at most:
entries that are numbered in order, each for an accepted answer.  Where none is added the change
stands where it stood. -/
structure Adds (id : String) (first left : Nat) (before after : World)
    (added : List ReviewEntry) : Prop where
  critiques : after.store.critiquesOf id = before.store.critiquesOf id ++ added
  numbered : ∀ entry, added.getLast? = some entry → entry.iteration + 1 = first + added.length
  unmoved : added = [] → after.store.standing id = before.store.standing id
  continues : before.Continues after
  shown : added ≠ [] → .line (critiqueText id first) ∈ after.events
  enough : Event.criticCalls before.events + added.length ≤ Event.criticCalls after.events
  within : Event.criticCalls after.events ≤ Event.criticCalls before.events + left

theorem Adds.of_aside {id : String} {first : Nat} {before after : World}
    (aside : before.Aside id (· ≠ .critic) after) : Adds id first 0 before after [] where
  critiques := by rw [aside.critiques, List.append_nil]
  numbered := by simp
  unmoved _ := aside.standing
  continues := aside.continues
  shown := by simp
  enough := by simp [aside.criticCalls]
  within := by simp [aside.criticCalls]

/-- Critiques that follow others are numbered on from them. -/
theorem Adds.append {id : String} {first left more : Nat} {before middle after : World}
    {added later : List ReviewEntry} (one : Adds id first left before middle added)
    (two : Adds id (first + added.length) more middle after later) :
    Adds id first (left + more) before after (added ++ later) where
  critiques := by rw [two.critiques, one.critiques, List.append_assoc]
  numbered := by
    intro entry last
    cases later with
    | nil =>
        rw [List.append_nil] at last ⊢
        exact one.numbered entry last
    | cons next later =>
        have numbered := two.numbered entry (by simpa [List.getLast?_append] using last)
        push_cast [List.length_append] at numbered ⊢
        omega
  unmoved := by
    intro empty
    obtain ⟨rfl, rfl⟩ := List.append_eq_nil_iff.mp empty
    exact (two.unmoved rfl).trans (one.unmoved rfl)
  continues := one.continues.trans two.continues
  shown := by
    intro some_added
    cases added with
    | nil => exact two.shown (by simpa using some_added)
    | cons entry added =>
        obtain ⟨more, events⟩ := two.continues
        rw [events]
        exact List.mem_append_left _ (one.shown (List.cons_ne_nil _ _))
  enough := by
    have := one.enough
    have := two.enough
    rw [List.length_append]
    omega
  within := by
    have := one.within
    have := two.within
    omega

theorem Adds.mono {id : String} {first left more : Nat} {before after : World}
    {added : List ReviewEntry} (adds : Adds id first left before after added)
    (enough : left ≤ more) : Adds id first more before after added :=
  { adds with within := by have := adds.within; omega }

section
variable {context : CycleContext} {iteration : Nat} {world last : World}

/-- A critique has one answer accepted or none; one that gives a review has one. -/
theorem critique_criticCalls {result : Except Stop Review}
    (ran : critique context iteration world = (result, last)) :
    Event.criticCalls last.events ≤ Event.criticCalls world.events + 1 ∧
      ∀ review, result = .ok review →
        Event.criticCalls last.events = Event.criticCalls world.events + 1 := by
  unfold critique documents at ran
  rw [Run.bind_of_ok (Run.look_apply _ world), Run.bind_of_ok (Run.say_apply _ world)] at ran
  have begun : Event.acceptedCalls (world.shows [critiqueLine context iteration]).events =
      Event.acceptedCalls world.events := by
    simp [critiqueLine]
  unfold Event.criticCalls
  rw [← begun]
  rcases Run.bind_cases ran with ⟨_, stopped, rfl⟩ | ⟨prompt, _, read, ran⟩
  · rw [Run.ofFiles_apply] at stopped
    obtain ⟨-, rfl⟩ := Prod.mk.inj stopped
    exact ⟨Nat.le_succ _, by simp⟩
  obtain ⟨-, rfl⟩ := Run.ofFiles_ok_iff.1 read
  rcases Run.bind_cases ran with ⟨_, stopped, rfl⟩ | ⟨answer, after, answered, ran⟩
  · have same := AgentCall.acceptedCalls_of_error stopped
    exact ⟨by rw [same]; exact Nat.le_succ _, by simp⟩
  -- After the answer there are only warnings and one session.
  rw [Run.bind_of_ok (Run.warnAll_apply _ after), Run.bind_of_ok (warnOfUsage_apply _ _ _),
    World.shows_shows] at ran
  have events : Event.acceptedCalls last.events = Event.acceptedCalls after.events := by
    rcases Run.bind_cases ran with ⟨_, stopped, -⟩ | ⟨_, _, kept, ended⟩
    · rcases Run.session_cases stopped with ⟨_, _, _, rfl⟩ | ⟨_, _, _, impossible, _⟩
      · simp [acceptedCalls_warnings]
      · cases impossible
    · cases ended
      rcases Run.session_cases kept with ⟨_, _, impossible, _⟩ | ⟨_, _, _, _, rfl⟩
      · cases impossible
      · simp [acceptedCalls_warnings]
  have one := AgentCall.acceptedCalls_run answered
  rw [events, one, List.countP_append]
  exact ⟨Nat.le_refl _, fun _ _ => rfl⟩

theorem critiquesOf_withCritique (change : Change) (used : UsageRecord) (review : Review)
    (store : Store) :
    (withCritique context change used review iteration store).critiquesOf context.changeId =
      store.critiquesOf context.changeId ++ [review.entry context iteration] := by
  simp [Store.critiquesOf, Store.reviewsOf, withCritique, Review.entry]

/-- A critique that gives a review is shown and kept beside the earlier ones. -/
theorem critiquesOf_critique {review : Review}
    (ran : critique context iteration world = (.ok review, last)) :
    last.store.critiquesOf context.changeId =
        world.store.critiquesOf context.changeId ++ [review.entry context iteration] ∧
      .line (critiqueText context.changeId iteration) ∈ last.events := by
  obtain ⟨prompt, answer, after, store, -, answered, -, worked, rfl⟩ := critique_ok_iff.1 ran
  obtain ⟨used, change, -, -, -, -, -, -, -, rfl⟩ := keepCritique_ok_iff.1 worked
  have same := AgentCall.store_run answered
  rw [World.store_shows] at same
  constructor
  · rw [← same]
    exact critiquesOf_withCritique change used review after.store
  · rcases AgentCall.run_leaves answered with ⟨impossible, -⟩ | ⟨⟨-, tried, -, events⟩, -⟩
    · cases impossible
    · have shown : critiqueLine context iteration ∈ after.events := by
        rw [events, World.events_shows]
        simp
      exact List.mem_append_left _ shown

theorem applyCritique_isAside {id : String} {mayAsk : Role → Prop} (context : CycleContext)
    (iteration : Nat) (review : Review) :
    Run.IsAside id mayAsk (applyCritique context iteration review) := by
  unfold applyCritique
  split
  · exact .stop _
  split
  · exact .stop _
  refine .bind (.changeFiles _) fun _ => ?_
  split
  · exact .bind (.say _) fun _ => .pure _
  · exact .bind (.say _) fun _ => .pure _
  · exact .bind (.say _) fun _ => .pure _

/-- The step of a critique adds none and ends the round, or it adds its critique and ends as its
verdict decides, or fails if that cannot be applied. -/
theorem challengeStep_adds {result : Except Stop (StepEnd Review)}
    (ran : challengeStep context iteration world = (result, last)) :
    (Adds context.changeId iteration 1 world last [] ∧ ∀ review, result ≠ .ok (.done review)) ∨
      ∃ review,
        Adds context.changeId iteration 1 world last [review.entry context iteration] ∧
        ∀ ending, result = .ok ending →
          (isApplicable review = true ∧ ending = verdictEnd review) ∨
            (isApplicable review = false ∧
              ∃ failure, ending = .ended (.ofFailure "challenge" failure)) := by
  have logged (mayAsk : Role → Prop) : world.Aside context.changeId mayAsk
    (world.logs (stepEvent context "challenge" "started")) := .logs
  obtain ⟨_, after, body, framed⟩ := runStep_frames ran
  have frame := framed context.changeId (· ≠ .critic)
  rcases Run.bind_cases body with ⟨_, made, -⟩ | ⟨review, kept, made, applied⟩
  · have aside := ((logged _).trans (critique_error trivial made)).trans
      (framed context.changeId fun _ => True)
    have calls := (critique_criticCalls made).1
    rw [World.events_logs, ← frame.criticCalls] at calls
    obtain ⟨-, ends⟩ := runStep_of_error (Run.bind_of_error made) ran
    refine .inl ⟨⟨by rw [aside.critiques, List.append_nil], by simp, fun _ => aside.standing,
      aside.continues, by simp, ?_, calls⟩, ?_⟩
    · obtain ⟨more, events⟩ := aside.continues
      simp [events]
    · rintro review same
      rcases ends with ⟨_, impossible⟩ | ⟨_, impossible⟩
      · cases same.symm.trans impossible
      · cases same.symm.trans impossible
  · have rest := ((applyCritique_isAside context iteration review).aside applied).trans frame
    obtain ⟨critiques, shown⟩ := critiquesOf_critique made
    have calls := (critique_criticCalls made).2 review rfl
    rw [World.events_logs, ← rest.criticCalls] at calls
    obtain ⟨more, events⟩ := rest.continues
    refine .inr ⟨review, ⟨?_, ?_, nofun, challengeStep_continues ran, fun _ => ?_, ?_, ?_⟩,
      fun ending same => ?_⟩
    · rw [rest.critiques, critiques, World.store_logs]
      rfl
    · simp [Review.entry]
    · rw [events]
      exact List.mem_append_left _ shown
    · simp [calls]
    · simp [calls]
    · subst same
      exact challengeStep_of_kept made ran

/-- A critique that cannot be applied leaves nothing open. -/
theorem not_isOpen_of_inapplicable {review : Review} (inapplicable : isApplicable review = false)
    (number : Int) : ¬(review.entry context number).IsOpen := by
  rintro ⟨word, named⟩
  have verdict : review.verdict = .needsRevision := verdict_word_injective word
  have issues : review.issues ≠ [] := by simpa [Review.entry] using named
  simp [isApplicable, Review.isConsistent, verdict, issues] at inapplicable

theorem verdictEnd_cases (review : Review) :
    verdictEnd review = .ended .approved ∨ verdictEnd review = .ended .rejected ∨
      verdictEnd review = .done review := by
  unfold verdictEnd
  cases review.verdict with
  | approved => exact .inl rfl
  | rejected => exact .inr (.inl rfl)
  | needsRevision => exact .inr (.inr rfl)
  | unknown => exact .inr (.inr rfl)

/-- Critiques and revisions in turn add critiques in order, as many as are left at most.  After an
error the last of them leaves nothing open, or another one was allowed. -/
theorem critiquesFrom_adds {left : Nat} {result : Except Stop (Option CycleOutcome)}
    (ran : critiquesFrom context iteration left world = (result, last)) :
    ∃ added, Adds context.changeId iteration left world last added ∧
      ∀ kind step message, result = .ok (some (.error kind step message)) →
        ∀ entry, added.getLast? = some entry → entry.IsOpen →
          entry.iteration < context.policy.planningIterations := by
  induction left generalizing iteration world with
  | zero =>
      cases ran
      exact ⟨[], .of_aside (.refl _), by simp⟩
  | succ left ih =>
      unfold critiquesFrom at ran
      have room : 1 ≤ left + 1 := Nat.le_add_left 1 left
      rcases Run.bind_cases ran with ⟨_, stopped, rfl⟩ | ⟨ending, after, challenged, ran⟩
      · rcases challengeStep_adds stopped with ⟨adds, -⟩ | ⟨review, adds, -⟩
        · exact ⟨_, adds.mono room, by simp⟩
        · exact ⟨_, adds.mono room, by simp⟩
      rcases challengeStep_adds challenged with ⟨adds, ended⟩ | ⟨review, adds, ends⟩
      · cases ending with
        | ended outcome =>
            cases ran
            exact ⟨[], adds.mono room, by simp⟩
        | done review => exact absurd rfl (ended review)
      rcases ends ending rfl with ⟨-, rfl⟩ | ⟨inapplicable, failure, rfl⟩
      · rcases verdictEnd_cases review with same | same | same
        · rw [same] at ran
          cases ran
          exact ⟨_, adds.mono room, by simp⟩
        · rw [same] at ran
          cases ran
          exact ⟨_, adds.mono room, by simp⟩
        rw [same] at ran
        have revising : Run.IsAside context.changeId (· ≠ .critic)
            (reviseStep context iteration review) := reviseStep_isAside (by decide) _ _ _
        have revised {middle : World} {result : Except Stop (StepEnd Unit)}
            (begun : reviseStep context iteration review after = (result, middle)) :
            Adds context.changeId iteration 1 world middle [review.entry context iteration] :=
          adds.append (.of_aside (revising.aside begun))
        rcases Run.bind_cases ran with ⟨_, stopped, rfl⟩ | ⟨ending, middle, begun, ran⟩
        · exact ⟨_, (revised stopped).mono room, by simp⟩
        have allowed (goesOn : ∀ issues, ending ≠ .ended (.exhausted issues)) :
            (iteration : Int) < context.policy.planningIterations := by
          by_cases spent : context.policy.planningIterations ≤ iteration
          · rw [reviseStep_of_spent spent] at begun
            cases begun
            exact absurd rfl (goesOn _)
          · omega
        cases ending with
        | ended outcome =>
            cases ran
            refine ⟨_, (revised begun).mono room, fun _ _ _ same entry found _ => ?_⟩
            cases same
            cases found
            exact allowed (by simp)
        | done _ =>
            obtain ⟨later, more, failed⟩ := ih ran
            refine ⟨_, ((revised begun).append more).mono (by omega),
              fun kind step message same entry found wants => ?_⟩
            cases later with
            | nil =>
                cases found
                exact allowed (by simp)
            | cons next later =>
                exact failed kind step message same entry
                  (by simpa [List.getLast?_append] using found) wants
      · cases ran
        refine ⟨_, adds.mono room, fun _ _ _ _ entry found wants => absurd wants ?_⟩
        cases found
        exact not_isOpen_of_inapplicable inapplicable _

/-! ### Planning runs -/

/-- How a planning cycle or a round of critiques goes on a change in a phase: without the critic, or
on a proposed change with critiques and revisions in turn. -/
inductive Plans (context : CycleContext) (phase : Phase) (before : World) :
    Except Stop CycleOutcome → World → Prop
  | aside {result : Except Stop CycleOutcome} {after : World}
      (went : before.Aside context.changeId (· ≠ .critic) after) :
      Plans context phase before result after
  | round {middle after : World} {ended : Except Stop (Option CycleOutcome)}
      (proposed : phase = .proposed)
      (earlier : before.Aside context.changeId (· ≠ .critic) middle)
      (went : critiquesFrom context 1 context.policy.planningIterations.toNat middle =
        (ended, after)) :
      Plans context phase before (ended.map (·.getD (.exhausted 0))) after

theorem Plans.after {phase : Phase} {before middle after : World}
    {result : Except Stop CycleOutcome}
    (earlier : before.Aside context.changeId (· ≠ .critic) middle)
    (plans : Plans context phase middle result after) : Plans context phase before result after := by
  cases plans with
  | aside went => exact .aside (earlier.trans went)
  | round proposed begun went => exact .round proposed (earlier.trans begun) went

variable {result : Except Stop CycleOutcome}

theorem challengePlan_plans (ran : challengePlan context world = (result, last)) :
    Plans context .proposed world result last := by
  have checking : Run.IsAside context.changeId (· ≠ .critic) (validateStep context) :=
    validateStep_isAside context
  rcases Run.bind_cases ran with ⟨_, stopped, -⟩ | ⟨ending, checked, begun, ran⟩
  · exact .aside (checking.aside stopped)
  have earlier := checking.aside begun
  cases ending with
  | ended outcome =>
      cases ran
      exact .aside earlier
  | done _ =>
      rcases Run.bind_cases ran with ⟨_, stopped, rfl⟩ | ⟨_, _, went, ended⟩
      · exact .round rfl earlier stopped
      · cases ended
        exact .round rfl earlier went

theorem runChallenge_plans {phase : Phase} (ran : runChallenge context phase world = (result, last)) :
    Plans context phase world result last := by
  unfold runChallenge at ran
  split at ran
  · rename_i proposed
    rw [proposed]
    exact challengePlan_plans ran
  · cases ran
    exact .aside (.refl _)

theorem runCycle_plans {phase : Phase} (ran : runCycle context phase world = (result, last)) :
    Plans context phase world result last := by
  have looking : Run.IsAside context.changeId (· ≠ .critic) (onlyValidates context phase) :=
    onlyValidates_isAside context phase
  unfold runCycle at ran
  rcases Run.bind_cases ran with ⟨_, stopped, -⟩ | ⟨only, looked, begun, ran⟩
  · exact .aside (looking.aside stopped)
  apply Plans.after (looking.aside begun)
  cases only with
  | true =>
      have showing : Run.IsAside context.changeId (· ≠ .critic)
          (Run.say "[dim]All artifacts present; validating only[/dim]" >>= fun _ =>
            outcomeFromRecords context phase) :=
        .bind (.say _) fun _ => outcomeFromRecords_isAside context phase
      exact .aside (showing.aside ran)
  | false =>
      obtain rfl := proposed_of_not_onlyValidates begun
      have writing : Run.IsAside context.changeId (· ≠ .critic) (generateStep context) :=
        generateStep_isAside (by decide) context
      rcases Run.bind_cases ran with ⟨_, stopped, -⟩ | ⟨ending, written, generated, ran⟩
      · exact .aside (writing.aside stopped)
      apply Plans.after (writing.aside generated)
      cases ending with
      | ended outcome =>
          cases ran
          exact .aside (.refl _)
      | done _ => exact challengePlan_plans ran

/-- What a planning run adds to the critiques of a change, numbered from the first one on.  If it
adds any and ends with an error, the change is proposed as before, and its last critique leaves
nothing open or was not the last that the budget allows. -/
theorem Plans.adds {phase : Phase} (plans : Plans context phase world result last)
    (current : (world.store.standing context.changeId).1 = some phase) :
    ∃ added,
      Adds context.changeId 1 context.policy.planningIterations.toNat world last added ∧
      (added ≠ [] → ∀ kind step message, result = .ok (.error kind step message) →
        (last.store.standing context.changeId).1 = some .proposed ∧
          ∀ entry, added.getLast? = some entry → entry.IsOpen →
            entry.iteration < context.policy.planningIterations) := by
  cases plans with
  | aside went => exact ⟨[], (Adds.of_aside went).mono (Nat.zero_le _), fun some => absurd rfl some⟩
  | @round middle _ ended proposed earlier went =>
      obtain ⟨added, adds, failed⟩ := critiquesFrom_adds went
      refine ⟨added, ?_, fun _ kind step message same => ?_⟩
      · exact ((Adds.of_aside earlier).append adds).mono (by omega)
      have ends : ended = .ok (some (.error kind step message)) := by
        cases ended with
        | error reason => cases same
        | ok outcome =>
            cases outcome with
            | none => cases same
            | some outcome =>
                cases same
                rfl
      subst ends
      have begun := (congrArg Prod.fst earlier.standing).trans current
      rw [proposed] at begun
      exact ⟨critiquesFrom_phase went begun, failed kind step message rfl⟩

end

end Cycle

end PlanCycle
