/-
Module: PlanCycle.Proofs.CritiqueRound
Purpose: A whole round of critiques: for every budget and every dialogue it makes the critiques and
  revisions that the answers call for, and no others.
Main exports:
  Review.roundOutcome, Cycle.lastCritique, Cycle.callsOf, Cycle.entriesOf, Cycle.FollowsFrom,
  Cycle.critiquesFrom_gives, Project.challenge_follows_dialogue
-/
import PlanCycle.Proofs.CritiqueFile
import PlanCycle.Proofs.Project
import PlanCycle.Proofs.Validity
import PlanCycle.Proofs.WrittenReview

namespace PlanCycle

open Number Text

/-! ### The outcome that a critique decides -/

/-- The outcome of a round whose last critique is given. -/
def Review.roundOutcome (review : Review) : CycleOutcome :=
  match review.verdict with
  | .approved => .approved
  | .unknown => .error .parse "challenge" (Failure.message .noVerdict)
  | .rejected =>
      if review.issues = [] then
        .error .consistency "challenge" (Failure.message (.noIssues .rejected))
      else .rejected
  | .needsRevision =>
      if review.issues = [] then
        .error .consistency "challenge" (Failure.message (.noIssues .needsRevision))
      else .exhausted review.issues.length

/-- The phase of a change after a round that found it proposed. -/
def CycleOutcome.phase : CycleOutcome → Phase
  | .approved => .challenged
  | .rejected => .rejected
  | .exhausted _ | .error .. => .proposed

namespace Cycle

theorem critiqueEnding_of_asks {review : Review} (asks : review.AsksForRevision) :
    critiqueEnding review = .done review := by
  obtain ⟨verdict, issues⟩ := asks
  simp [critiqueEnding, Review.refusal?, Review.isConsistent, Review.requestsChanges, verdictEnd,
    verdict, issues]

theorem critiqueEnding_of_not_asks {review : Review} (rests : ¬review.AsksForRevision) :
    critiqueEnding review = .ended review.roundOutcome := by
  unfold Review.AsksForRevision at rests
  cases verdict : review.verdict with
  | approved =>
      simp [critiqueEnding, Review.refusal?, Review.isConsistent, Review.requestsChanges,
        verdictEnd, verdict, Review.roundOutcome]
  | unknown =>
      simp [critiqueEnding, Review.refusal?, verdict, Review.roundOutcome, CycleOutcome.ofFailure,
        Failure.kind]
  | needsRevision =>
      have none_named : review.issues = [] := by simpa [verdict] using rests
      simp [critiqueEnding, Review.refusal?, Review.isConsistent, Review.requestsChanges, verdict,
        none_named, Review.roundOutcome, CycleOutcome.ofFailure, Failure.kind]
  | rejected =>
      by_cases none_named : review.issues = []
      · simp [critiqueEnding, Review.refusal?, Review.isConsistent, Review.requestsChanges, verdict,
          none_named, Review.roundOutcome, CycleOutcome.ofFailure, Failure.kind]
      · simp [critiqueEnding, Review.refusal?, Review.isConsistent, Review.requestsChanges,
          verdictEnd, verdict, none_named, Review.roundOutcome]

theorem roundOutcome_of_approved {review : Review} (approved : review.verdict = .approved) :
    review.roundOutcome = .approved := by
  rw [Review.roundOutcome, approved]

theorem roundOutcome_of_asks {review : Review} (asks : review.AsksForRevision) :
    review.roundOutcome = .exhausted review.issues.length := by
  simp [Review.roundOutcome, asks.1, asks.2]

/-- The phase that a critique leaves is the one of the outcome that it decides. -/
theorem nextPhase_eq (review : Review) :
    review.nextPhase .proposed = review.roundOutcome.phase := by
  cases verdict : review.verdict with
  | approved =>
      simp [Review.nextPhase, isApplicable, Review.isConsistent, Review.requestsChanges, verdict,
        Review.roundOutcome, Phase.ofVerdict?, CycleOutcome.phase]
  | unknown =>
      simp [Review.nextPhase, isApplicable, verdict, Review.roundOutcome, CycleOutcome.phase]
  | needsRevision =>
      by_cases none_named : review.issues = []
      · simp [Review.nextPhase, isApplicable, Review.isConsistent, Review.requestsChanges, verdict,
          none_named, Review.roundOutcome, CycleOutcome.phase]
      · simp [Review.nextPhase, Phase.ofVerdict?, verdict, none_named, Review.roundOutcome,
          CycleOutcome.phase]
  | rejected =>
      by_cases none_named : review.issues = []
      · simp [Review.nextPhase, isApplicable, Review.isConsistent, Review.requestsChanges, verdict,
          none_named, Review.roundOutcome, CycleOutcome.phase]
      · simp [Review.nextPhase, isApplicable, Review.isConsistent, Review.requestsChanges,
          Phase.ofVerdict?, verdict, none_named, Review.roundOutcome, CycleOutcome.phase]

/-! ### How many critiques a round makes -/

/-- The last critique of a round: the first one that does not ask for a revision, or the one that
spends the budget. -/
def lastCritique (budget : Nat) (reviews : Nat → Review) : Nat :=
  ((List.range' 1 budget).find? fun i => !decide (reviews i).AsksForRevision).getD budget

theorem lastCritique_cases (budget : Nat) (reviews : Nat → Review) :
    (lastCritique budget reviews = budget ∨
        ¬(reviews (lastCritique budget reviews)).AsksForRevision) ∧
      lastCritique budget reviews ≤ budget ∧ (1 ≤ budget → 1 ≤ lastCritique budget reviews) ∧
      ∀ i, 1 ≤ i → i < lastCritique budget reviews → (reviews i).AsksForRevision := by
  unfold lastCritique
  cases found : (List.range' 1 budget).find? fun i => !decide (reviews i).AsksForRevision with
  | none =>
      rw [List.find?_eq_none] at found
      refine ⟨.inl rfl, Nat.le_refl _, fun enough => enough, fun i first within => ?_⟩
      have asks := found i (List.mem_range'_1.mpr ⟨first, by simp at within; omega⟩)
      simpa using asks
  | some last =>
      rw [List.find?_range'_eq_some] at found
      obtain ⟨rests, member, earlier⟩ := found
      rw [List.mem_range'_1] at member
      refine ⟨.inr (by simpa using rests), by simp; omega, fun _ => by simp; omega, ?_⟩
      intro i first within
      simpa using earlier i first (by simpa using within)

/-! ### What a dialogue amounts to -/

/-- The calls of a dialogue in order, from one turn on: each critique is followed by a revision,
but for the last one. -/
def callsOf (turn : Nat → Exchange) (last first : Nat) : List (Role × String × AgentAnswer) :=
  (List.range' first (last + 1 - first)).flatMap fun i =>
    (.critic, "challenge", (turn i).answer) ::
      if i < last then [(.generator, "revise:" ++ toString i, (turn i).revision)] else []

/-- The critiques of a dialogue as they are kept, from one turn on. -/
def entriesOf (context : CycleContext) (turn : Nat → Exchange) (last first : Nat) :
    List ReviewEntry :=
  (List.range' first (last + 1 - first)).map fun i => (turn i).review.entry context i

theorem callsOf_last (turn : Nat → Exchange) (last : Nat) :
    callsOf turn last last = [(.critic, "challenge", (turn last).answer)] := by
  simp [callsOf]

theorem callsOf_step {turn : Nat → Exchange} {last first : Nat} (more : first < last) :
    callsOf turn last first =
      [(.critic, "challenge", (turn first).answer)] ++
        [(.generator, "revise:" ++ toString first, (turn first).revision)] ++
        callsOf turn last (first + 1) := by
  have count : last + 1 - first = (last + 1 - (first + 1)) + 1 := by omega
  unfold callsOf
  rw [count, List.range'_succ]
  simp [more]

theorem entriesOf_last (context : CycleContext) (turn : Nat → Exchange) (last : Nat) :
    entriesOf context turn last last = [(turn last).review.entry context last] := by
  simp [entriesOf]

theorem entriesOf_step {context : CycleContext} {turn : Nat → Exchange} {last first : Nat}
    (more : first < last) :
    entriesOf context turn last first =
      (turn first).review.entry context first :: entriesOf context turn last (first + 1) := by
  have count : last + 1 - first = (last + 1 - (first + 1)) + 1 := by omega
  unfold entriesOf
  rw [count, List.range'_succ]
  simp

/-- Whether records and trace follow a dialogue from one turn on: the change is revised after each
turn but the last, whose review decides its phase; the reviews are kept and the calls are made in
order. -/
structure FollowsFrom (context : CycleContext) (turn : Nat → Exchange) (last first : Nat)
    (store : Store) (change : Change) (kept : Store) (shown : List Event) : Prop where
  onRecord : ∃ final, kept.find? context.changeId = some final ∧
    final.iteration = change.iteration + (last - first) ∧
    final.phase = (turn last).review.roundOutcome.phase
  reviews : kept.reviews = store.reviews ++ entriesOf context turn last first
  calls : Event.acceptedCalls shown = callsOf turn last first

section
variable {context : CycleContext} {turn : Nat → Exchange} {last first : Nat}
  {store kept : Store} {change : Change} {shown : List Event}

/-- The last turn adds a critique and a call of the critic. -/
theorem FollowsFrom.of_last
    (found : kept.find? context.changeId = some (criticised change (turn last).review last))
    (phase : (turn last).review.nextPhase change.phase = (turn last).review.roundOutcome.phase)
    (reviews : kept.reviews = store.reviews ++ [(turn last).review.entry context last])
    (calls : Event.acceptedCalls shown = [(.critic, "challenge", (turn last).answer)]) :
    FollowsFrom context turn last last store change kept shown := by
  refine ⟨⟨criticised change (turn last).review last, found, ?_, phase⟩, ?_, ?_⟩
  · simp [criticised]
  · rw [entriesOf_last]
    exact reviews
  · rw [callsOf_last]
    exact calls

/-- Any other turn adds a critique and a revision to what follows. -/
theorem FollowsFrom.step {next : Store} {revised : Change} {critique revision : List Event}
    (later : FollowsFrom context turn last (first + 1) next revised kept shown)
    (more : first < last) (iteration : revised.iteration = change.iteration + 1)
    (reviews : next.reviews = store.reviews ++ [(turn first).review.entry context first])
    (critic : Event.acceptedCalls critique = [(.critic, "challenge", (turn first).answer)])
    (generator : Event.acceptedCalls revision =
      [(.generator, "revise:" ++ toString first, (turn first).revision)]) :
    FollowsFrom context turn last first store change kept (critique ++ revision ++ shown) := by
  obtain ⟨final, found, count, phase⟩ := later.onRecord
  refine ⟨⟨final, found, ?_, phase⟩, ?_, ?_⟩
  · rw [count, iteration]
    omega
  · rw [later.reviews, reviews, entriesOf_step more, List.append_assoc]
    rfl
  · rw [Event.acceptedCalls_append, Event.acceptedCalls_append, critic, generator, later.calls,
      callsOf_step more]

end

/-- Critiques and revisions follow a dialogue to its last turn. -/
theorem critiquesFrom_gives {context : CycleContext} {conversation : String}
    {turn : Nat → Exchange} {last i left : Nat} {store : Store} {change : Change}
    (styled : context.console.TakesStyled)
    (dialogue : Dialogue context conversation last turn)
    (asks : ∀ j, 1 ≤ j → j < last → (turn j).review.AsksForRevision)
    (ends : (last : Int) = context.policy.planningIterations ∨
      ¬(turn last).review.AsksForRevision)
    (within : (last : Int) ≤ context.policy.planningIterations)
    (first : 1 ≤ i) (upto : i ≤ last)
    (budget : (i : Int) + left = context.policy.planningIterations + 1)
    (found : store.find? context.changeId = some change) (proposed : change.phase = .proposed)
    (recorded : change.sessionId = some conversation) (named : conversation ≠ "")
    (lower : -Session.numberLimit ≤ change.iteration)
    (upper : change.iteration + (last - i) < Session.numberLimit)
    (short : (last : Int) < Session.numberLimit) (events : List Event) :
    ∃ kept shown,
      critiquesFrom context i left ((turn i).before.world store events) =
        (.ok (some (turn last).review.roundOutcome),
          (turn last).filed.world kept (events ++ shown)) ∧
      FollowsFrom context turn last i store change kept shown := by
  induction left generalizing i store change events with
  | zero => omega
  | succ left ih =>
      have fit : Session.fits [(i : Int), change.iteration] = true := by
        simp [Session.fits]
        omega
      obtain ⟨store₁, shown₁, challenged, found₁, reviews₁, calls₁⟩ :=
        challengeStep_gives styled (dialogue.critiques i first upto) found proposed fit events
      have phase (review : Review) :
          review.nextPhase change.phase = review.roundOutcome.phase := by
        rw [proposed]
        exact nextPhase_eq review
      unfold critiquesFrom
      rw [Run.bind_of_ok challenged]
      by_cases goesOn : (turn i).review.AsksForRevision
      · rw [show Review.parse (turn i).answer.output = (turn i).review from rfl,
          critiqueEnding_of_asks goesOn]
        dsimp only
        by_cases more : i < last
        · -- The plan is revised, and the next turn finds it proposed as before.
          have still : (criticised change (turn i).review i).phase = .proposed := by
            rw [criticised, proposed]
            exact goesOn.nextPhase
          have room :
              Session.fits [(criticised change (turn i).review i).iteration + 1] = true := by
            simp [Session.fits, criticised]
            omega
          obtain ⟨store₂, shown₂, revised, found₂, reviews₂, calls₂⟩ :=
            reviseStep_gives (dialogue.revises i first more) found₁ recorded named (by omega) room
              (events ++ shown₁)
          rw [Run.bind_of_ok revised]
          dsimp only
          rw [← dialogue.follows i first more]
          obtain ⟨kept, shown, ran, later⟩ :=
            ih (by omega) more (by push_cast at budget ⊢; omega) found₂ still recorded
              (by simp [revisedChange, criticised]; omega)
              (by simp [revisedChange, criticised]; omega) (events ++ shown₁ ++ shown₂)
          have reviews : store₂.reviews = store.reviews ++ [(turn i).review.entry context i] :=
            reviews₂.trans reviews₁
          refine ⟨kept, shown₁ ++ shown₂ ++ shown, ?_, later.step more rfl reviews calls₁ calls₂⟩
          simpa only [List.append_assoc] using ran
        · -- The budget is spent, so the issues stay open.
          obtain rfl : i = last := by omega
          have spent : context.policy.planningIterations ≤ i := by
            rcases ends with same | rests
            · omega
            · exact absurd goesOn rests
          rw [Run.bind_of_ok (reviseStep_of_spent spent), ← roundOutcome_of_asks goesOn]
          exact ⟨_, shown₁, rfl, .of_last found₁ (phase _) reviews₁ calls₁⟩
      · -- The verdict ends the round.
        obtain rfl : i = last := by
          rcases Nat.lt_or_ge i last with more | done
          · exact absurd (asks i first more) goesOn
          · omega
        rw [show Review.parse (turn i).answer.output = (turn i).review from rfl,
          critiqueEnding_of_not_asks goesOn]
        exact ⟨store₁, shown₁, rfl, .of_last found₁ (phase _) reviews₁ calls₁⟩

/-! ### A round on a proposed change -/

theorem callsOf_counts (turn : Nat → Exchange) {last i left : Nat} (count : i + left = last) :
    (callsOf turn last i).countP (fun call => decide (call.1 = .critic)) = left + 1 ∧
      (callsOf turn last i).countP (fun call => decide (call.1 = .generator)) = left := by
  induction left generalizing i with
  | zero =>
      obtain rfl : i = last := by omega
      rw [callsOf_last]
      exact ⟨rfl, rfl⟩
  | succ left ih =>
      have rest : i + 1 + left = last := by omega
      obtain ⟨critics, generators⟩ := ih rest
      rw [callsOf_step (by omega), List.countP_append, List.countP_append, List.countP_append,
        List.countP_append, critics, generators]
      simp
      omega

/-- The check of valid documents changes nothing but the log. -/
theorem validateStep_gives {context : CycleContext} {surroundings : Surroundings}
    (valid : (folderIn context surroundings).IsValid) (store : Store) (events : List Event) :
    ∃ shown, validateStep context (surroundings.world store events) =
        (.ok (.done ()), surroundings.world
          ((store.logged (stepEvent context "validate" "started")).logged
            (stepEvent context "validate" "completed")) (events ++ shown)) ∧
      Event.acceptedCalls shown = [] := by
  obtain ⟨validation, checked, fine⟩ := valid
  refine ⟨_, validateStep_done_iff.2 ⟨validation, checked, fine, rfl⟩, ?_⟩
  refine Event.acceptedCalls_of_shown fun event member => ?_
  rcases List.mem_append.mp member with warning | problem
  · obtain ⟨text, -, rfl⟩ := List.mem_map.mp warning
    rfl
  · obtain ⟨problem, -, rfl⟩ := List.mem_map.mp problem
    rfl

/-- A new round on a proposed change follows its dialogue to the last turn. -/
theorem runChallenge_gives {context : CycleContext} {conversation : String}
    {turn : Nat → Exchange} {last : Nat} {store : Store} {change : Change}
    (styled : context.console.TakesStyled)
    (reached : last = lastCritique context.policy.planningIterations.toNat
      fun i => (turn i).review)
    (dialogue : Dialogue context conversation last turn)
    (valid : (folderIn context (turn 1).before).IsValid)
    (budget : 1 ≤ context.policy.planningIterations)
    (found : store.find? context.changeId = some change) (proposed : change.phase = .proposed)
    (spoken : change.sessionId = some conversation) (named : conversation ≠ "")
    (counted : Session.fits [change.iteration, change.iteration + (last - 1), (last : Int)] = true)
    (events : List Event) :
    ∃ kept shown,
      runChallenge context .proposed ((turn 1).before.world store events) =
        (.ok (turn last).review.roundOutcome,
          (turn last).filed.world kept (events ++ shown)) ∧
      FollowsFrom context turn last 1 store change kept shown := by
  obtain ⟨ends, within, first, asks⟩ :=
    lastCritique_cases context.policy.planningIterations.toNat fun i => (turn i).review
  rw [← reached] at ends within first asks
  have enough : 1 ≤ last := first (by omega)
  obtain ⟨checked, validates, none_accepted⟩ := validateStep_gives valid store events
  have ended : (last : Int) = context.policy.planningIterations ∨
      ¬(turn last).review.AsksForRevision := by
    rcases ends with spent | rests
    · exact .inl (by omega)
    · exact .inr rests
  simp only [Session.fits, List.all_cons, List.all_nil, Bool.and_true, Bool.and_eq_true,
    decide_eq_true_eq] at counted
  have foundLogged : ((store.logged (stepEvent context "validate" "started")).logged
      (stepEvent context "validate" "completed")).find? context.changeId = some change := found
  have left : ((1 : Nat) : Int) + context.policy.planningIterations.toNat =
      context.policy.planningIterations + 1 := by omega
  obtain ⟨kept, shown, ran, follows⟩ :=
    critiquesFrom_gives styled dialogue asks ended (by omega) (Nat.le_refl 1) enough left
      foundLogged proposed spoken named counted.1.1 (by push_cast; exact counted.2.1.2) counted.2.2.2
      (events ++ checked)
  refine ⟨kept, checked ++ shown, ?_, ⟨follows.onRecord, follows.reviews, ?_⟩⟩
  · unfold runChallenge challengePlan critiqueRound
    rw [if_pos rfl, Run.bind_of_ok validates]
    dsimp only
    rw [Run.bind_of_ok ran, List.append_assoc]
    rfl
  · rw [Event.acceptedCalls_append, none_accepted, follows.calls, List.nil_append]

/-- A critique after which nothing is to be revised ends a round at once. -/
theorem runChallenge_of_settled {context : CycleContext} {before answered filed : Surroundings}
    {answer : AgentAnswer} {store : Store} {change : Change}
    (styled : context.console.TakesStyled)
    (critiques : Critiques context 1 before answer answered filed)
    (settled : ¬(Review.parse answer.output).AsksForRevision)
    (valid : (folderIn context before).IsValid) (budget : 1 ≤ context.policy.planningIterations)
    (found : store.find? context.changeId = some change) (proposed : change.phase = .proposed)
    (fits : Session.fits [change.iteration] = true) (events : List Event) :
    ∃ kept shown,
      runChallenge context .proposed (before.world store events) =
        (.ok (Review.parse answer.output).roundOutcome, filed.world kept (events ++ shown)) ∧
      kept.find? context.changeId = some (criticised change (Review.parse answer.output) 1) := by
  obtain ⟨checked, validates, -⟩ := validateStep_gives valid store events
  have foundLogged : ((store.logged (stepEvent context "validate" "started")).logged
      (stepEvent context "validate" "completed")).find? context.changeId = some change := found
  have fit : Session.fits [((1 : Nat) : Int), change.iteration] = true := by
    simp only [Session.fits, List.all_cons, Bool.and_eq_true] at fits ⊢
    exact ⟨by decide, fits⟩
  obtain ⟨kept, shown, challenged, standing, -, -⟩ :=
    challengeStep_gives styled critiques foundLogged proposed fit (events ++ checked)
  obtain ⟨left, turns⟩ : ∃ left, context.policy.planningIterations.toNat = left + 1 :=
    ⟨context.policy.planningIterations.toNat - 1, by omega⟩
  refine ⟨kept, checked ++ shown, ?_, standing⟩
  unfold runChallenge challengePlan critiqueRound
  rw [if_pos rfl, Run.bind_of_ok validates]
  dsimp only
  rw [turns, critiquesFrom, ← List.append_assoc]
  have ended : (critiquesFrom context 1 (left + 1) : Run (Option CycleOutcome)) _ = _ :=
    Run.bind_of_ok challenged
  rw [critiquesFrom, critiqueEnding_of_not_asks settled] at ended
  exact Run.bind_of_ok ended

/-- An answer that cannot be kept breaks a round off at its first critique. -/
theorem runChallenge_of_unkept {context : CycleContext} {before answered : Surroundings}
    {answer : AgentAnswer} {breakdown : Breakdown} (valid : (folderIn context before).IsValid)
    (budget : 1 ≤ context.policy.planningIterations)
    (gives : ∀ prompt, before.Gives ((critiqueCall context (folderIn context before) prompt).run
      context fun _ answer => saysSomething answer) answer answered)
    (unkept : ∀ store, keepCritique context answer (Review.parse answer.output) (1 : Nat) store =
      .error (.breakdown breakdown)) (store : Store) (events : List Event) :
    ∃ kept shown,
      runChallenge context .proposed (before.world store events) =
        (.error (.breakdown breakdown), answered.world kept (events ++ shown)) ∧
      Event.acceptedCalls shown = [(.critic, "challenge", answer)] ∧
      kept.reviews = store.reviews ∧
      kept.find? context.changeId = store.find? context.changeId := by
  obtain ⟨prompt, prompted⟩ := valid.critiquePrompt context.changeId (1 : Nat) context.criticName
  obtain ⟨checked, validates, none_accepted⟩ := validateStep_gives valid store events
  let logged := (store.logged (stepEvent context "validate" "started")).logged
    (stepEvent context "validate" "completed")
  let kept := logged.logged (stepEvent context "challenge" "started")
  obtain ⟨added, ran, accepted⟩ :=
    (gives prompt).call kept (events ++ checked ++ [critiqueLine context 1])
  let begun := (before.world logged (events ++ checked)).logs
    (stepEvent context "challenge" "started")
  let shown := checked ++ [critiqueLine context 1] ++ added ++ critiqueWarnings answer
  have made : critique context 1 begun =
      (.error (.breakdown breakdown), answered.world kept (events ++ shown)) := by
    have stopped : critique context 1 begun = _ := critique_of_unkept prompted ran (unkept _)
    rw [stopped, Surroundings.shows_world]
    simp only [shown, List.append_assoc]
  have challenged : challengeStep context 1 (before.world logged (events ++ checked)) = _ :=
    runStep_of_breakdown (Run.bind_of_error made)
  obtain ⟨left, turns⟩ : ∃ left, context.policy.planningIterations.toNat = left + 1 :=
    ⟨context.policy.planningIterations.toNat - 1, by omega⟩
  refine ⟨kept, shown, ?_, ?_, rfl, rfl⟩
  · unfold runChallenge challengePlan critiqueRound
    rw [if_pos rfl, Run.bind_of_ok validates]
    dsimp only
    rw [turns, critiquesFrom, Run.bind_of_error (Run.bind_of_error challenged)]
  · simp [shown, none_accepted, accepted, critiqueLine, critiqueCall]

end Cycle

namespace Project

open PlanCycle.Cycle

/-- A new round on a proposed change whose documents are valid makes as many critiques as its
answers and its budget call for, revises the plan between them, keeps and files each, and ends as
the last one decides. -/
theorem challenge_follows_dialogue {project : Project} {root : Path} {id conversation : String}
    {means : Means} {context : CycleContext} {turn : Nat → Exchange} {last : Nat} {store : Store}
    {change : Change} {cast : Cast} {lister : SessionLister}
    (recorded : project.records root id = some store) (found : store.find? id = some change)
    (proposed : change.phase = .proposed) (spoken : change.sessionId = some conversation)
    (named : conversation ≠ "") (played : project.players means = .ok cast)
    (resumable : cast.generatorProvider = .gemini)
    (listed : SessionLister.standard? project.settings = some lister)
    (styled : means.console.TakesStyled)
    (ready : context = project.context root change cast means lister)
    (budget : 1 ≤ context.policy.planningIterations)
    (begins : (turn 1).before =
      ⟨(project.state (project.place root id)).files, cast.agents, means.processes⟩)
    (valid : ChangeFolder.IsValid ⟨project.place root id,
      (project.state (project.place root id)).files⟩)
    (reached : last = lastCritique context.policy.planningIterations.toNat
      fun i => (turn i).review)
    (dialogue : Dialogue context conversation last turn)
    (counted : Session.fits
      [change.iteration, change.iteration + (last - 1), (last : Int)] = true) :
    let report := project.challenge root id means
    let files := fun project : Project => (project.state (project.place root id)).files
    report.result = .ok (turn last).review.roundOutcome ∧
      Event.acceptedCalls report.events = callsOf turn last 1 ∧
      (Event.acceptedCalls report.events).countP (fun call => decide (call.1 = .critic)) = last ∧
      (Event.acceptedCalls report.events).countP (fun call => decide (call.1 = .generator)) =
        last - 1 ∧
      files report.project = (turn last).filed.files ∧
      (SparesCritiques turn last →
        ∀ old, (files project).content? (Artifact.file .challenge) = some old →
          (files report.project).content? (Artifact.file .challenge) =
            some (old.append (String.join (blocksOf context turn last 1)))) ∧
      ∃ kept final, report.project.records root id = some kept ∧
        kept.reviews = store.reviews ++ entriesOf context turn last 1 ∧
        kept.find? id = some final ∧ final.iteration = change.iteration + (last - 1) ∧
        final.phase = (turn last).review.roundOutcome.phase := by
  have about : change.id = id := Store.id_of_find? found
  have contextId : context.changeId = id := by
    rw [ready]
    exact about
  have place : context.place = project.place root id := by
    rw [ready]
    exact congrArg (project.place root) about
  have prepared : project.prepare root id means (project.start root id means store) =
      (.ok (context, .proposed), (turn 1).before.world store []) := by
    refine prepare_ok_iff.2 ⟨change, cast, lister, found, played, listed, resumable, ready,
      proposed.symm, ?_⟩
    rw [begins]
    rfl
  have validBefore : (folderIn context (turn 1).before).IsValid := by
    rw [folderIn, place, begins]
    exact valid
  have enough : 1 ≤ last := by
    obtain ⟨-, -, first, -⟩ :=
      lastCritique_cases context.policy.planningIterations.toNat fun i => (turn i).review
    rw [reached]
    exact first (by omega)
  obtain ⟨kept, shown, ran, follows⟩ :=
    runChallenge_gives (by rw [ready]; exact styled) reached dialogue validBefore budget
      (by rw [contextId]; exact found) proposed spoken named counted []
  rw [challenge_eq, within_onceReady recorded prepared ran]
  have count : 1 + (last - 1) = last := by omega
  have counts := callsOf_counts turn count
  have begun : (turn 1).before.files = (project.state (project.place root id)).files := by
    rw [begins]
  dsimp only
  simp only [place_setState, state_setState, List.nil_append]
  have traced : Event.acceptedCalls ((turn last).filed.world kept shown).events =
      callsOf turn last 1 := follows.calls
  obtain ⟨final, foundLast, iteration, phase⟩ := follows.onRecord
  refine ⟨trivial, traced, ?_, ?_, rfl, ?_, kept, final, ?_, follows.reviews, ?_, iteration,
    phase⟩
  · rw [traced, counts.1]
    omega
  · rw [traced, counts.2]
  · intro spares old stands
    rw [← begun] at stands
    exact content?_of_dialogue dialogue spares (Nat.le_refl 1) count stands
  · simp [records, Surroundings.world]
  · rw [← contextId]
    exact foundLast

end Project

/-! ### A round of two critiques -/

namespace ChangeFolder

/-- The least plan, with critiques in their file. -/
def criticisedPlan (text : String) : Folder :=
  leastPlan ++ [(Artifact.file .challenge, .file (.text text))]

theorem append_leastPlan (text : String) :
    leastPlan.append (Artifact.file .challenge) text = .ok (criticisedPlan text) := rfl

theorem append_criticisedPlan (old text : String) :
    (criticisedPlan old).append (Artifact.file .challenge) text =
      .ok (criticisedPlan (old ++ text)) := rfl

theorem criticisedPlan_agrees (text : String) :
    Folder.AgreesExcept (Artifact.file .challenge) leastPlan (criticisedPlan text) := by
  intro other differs
  have absent : ([(Artifact.file .challenge, FolderEntry.file (.text text))] : Folder).find?
      (·.1 == other) = none := by
    simp [Ne.symm differs]
  unfold Folder.entry? criticisedPlan
  rw [List.find?_append, absent, Option.or_none]

theorem checkup_criticisedPlan (place : Path) (text : String) :
    checkup ⟨place, criticisedPlan text⟩ = ⟨0, .ok ⟨[]⟩⟩ := by
  have strays : straySpecs ⟨place, criticisedPlan text⟩ [] = [] := by
    simp [straySpecs, Folder.names, criticisedPlan, leastPlan, Artifact.file]
  exact checkup_of_leastDocuments rfl rfl rfl rfl strays

theorem criticisedPlan_isValid (place : Path) (text : String) :
    IsValid ⟨place, criticisedPlan text⟩ :=
  (leastPlan_isValid place).congr (criticisedPlan_agrees text)

end ChangeFolder

namespace Cycle

/-- A critic with an answer ready takes its part in a critique of a valid plan. -/
theorem critiques_of_ready {context : CycleContext} {iteration : Nat} {before filed : Surroundings}
    {first : Reply} {others : List Reply} {answer : AgentAnswer} {used : UsageRecord}
    (valid : (folderIn context before).IsValid)
    (ready : before.agents .critic = .ready first others) (given : first.answer = .ok answer)
    (spoken : saysSomething answer = true) (attempts : 1 ≤ context.policy.attempts)
    (whole : answer.isWhole = true)
    (recorded : answer.record? context "challenge" = some used) (fits : used.Fits)
    (agents : filed.agents = (before.answered .critic first others).agents)
    (processes : filed.processes = before.processes)
    (files : if isApplicable (Review.parse answer.output) then
        (before.files.edited first.edits).append (Artifact.file .challenge)
          (critiqueBlock context iteration (Review.parse answer.output)) = .ok filed.files
      else filed.files = before.files.edited first.edits) :
    Critiques context iteration before answer (before.answered .critic first others) filed := by
  obtain ⟨prompt, prompted⟩ :=
    valid.critiquePrompt context.changeId iteration context.criticName
  exact ⟨⟨prompt, prompted, Surroundings.gives_ready ready given spoken attempts⟩, whole,
    ⟨used, recorded, fits⟩, agents, processes, files⟩

end Cycle

/-! A critic objects to a plan, the generator revises it, and the critic approves of it. -/

namespace TwoTurns

open PlanCycle.Cycle ChangeFolder

def root : Path := ⟨"/", ["work"]⟩

/-- The change, of which a conversation is on record. -/
def change : Change := { id := "search", sessionId := some "s" }

/-- A project in which the change is proposed with the least plan. -/
def project : Project :=
  { folders := [(Project.place {} root change.id, leastPlan)]
    stores := [(Settings.recordPath {} (Project.place {} root change.id),
      { changes := [change] })] }

def objection : WrittenReview :=
  { review :=
      { verdict := .needsRevision, issues := [{ severity := .low, description := "too short" }] } }

def approval : WrittenReview := { review := { verdict := .approved } }

def answerOf (text : String) : AgentAnswer := { output := text, model := .string "m" }

def replyOf (text : String) : Reply := { answer := .ok (answerOf text) }

def cast : Cast :=
  { agents := fun
      | .critic => .ready (replyOf objection.text) [replyOf approval.text]
      | _ => .ready (replyOf "done") [] }

/-- The list of the one conversation. -/
def conversations : ProcessResult := .exited 0 "Available sessions\n1. x [s]" ""

/-- The cast, a budget of two critiques, and one run of the program that lists conversations. -/
def means : Means :=
  { cast := some cast
    policy := some { planningIterations := 2 }
    processes := { scripts := [{ result := conversations }] } }

def lister : SessionLister := ⟨["gemini", "--list-sessions"], 30⟩

def context : CycleContext := project.context root change cast means lister

theorem objection_isReadable : objection.IsReadable := by
  refine ⟨fun issue member => ?_, nofun⟩
  obtain rfl := List.mem_singleton.mp member
  exact ⟨isPlain_spelled ⟨by decide, by decide, by decide⟩ (by decide), nofun⟩

theorem approval_isReadable : approval.IsReadable := ⟨nofun, nofun⟩

/-- What the critic finds first. -/
def firstReview : Review := Review.parse objection.text

/-- What the critic finds in the end. -/
def lastReview : Review := Review.parse approval.text

theorem firstReview_asks : firstReview.AsksForRevision := by
  obtain ⟨verdict, issues⟩ := WrittenReview.parse_text objection_isReadable
  refine ⟨verdict, ?_⟩
  unfold firstReview
  rw [issues]
  decide

theorem firstReview_isApplicable : isApplicable firstReview = true := by
  obtain ⟨verdict, issues⟩ := firstReview_asks
  simp [isApplicable, Review.isConsistent, verdict, issues]

theorem lastReview_verdict : lastReview.verdict = .approved :=
  (WrittenReview.parse_text approval_isReadable).1

theorem lastReview_isApplicable : isApplicable lastReview = true := by
  simp [isApplicable, Review.isConsistent, Review.requestsChanges, lastReview_verdict]

/-- What the first critique adds to the file of the critiques. -/
def firstBlock : String := critiqueBlock context 1 firstReview

/-- What the second critique adds to the file of the critiques. -/
def lastBlock : String := critiqueBlock context 2 lastReview

/-- An objection, and a revision in the conversation that is listed. -/
def firstTurn : Exchange :=
  let before : Surroundings := ⟨leastPlan, cast.agents, means.processes⟩
  let answered := before.answered .critic (replyOf objection.text) [replyOf approval.text]
  let filed := { answered with files := criticisedPlan firstBlock }
  let listed := { filed with processes := {} }
  { before, answer := answerOf objection.text, answered, filed, listed
    revision := answerOf "done"
    revised := listed.answered .generator (replyOf "done") [] }

/-- An approval, after which nothing is revised. -/
def lastTurn : Exchange :=
  let before := firstTurn.revised
  let answered := before.answered .critic (replyOf approval.text) []
  let filed := { answered with files := criticisedPlan (firstBlock ++ lastBlock) }
  { before, answer := answerOf approval.text, answered, filed
    listed := filed, revision := answerOf "done", revised := filed }

def turn (i : Nat) : Exchange := if i = 1 then firstTurn else lastTurn

/-- An answer that is a written review says something. -/
theorem saysSomething_answerOf (written : WrittenReview) :
    saysSomething (answerOf written.text) = true := by
  unfold saysSomething answerOf
  rw [written.isBlankText_text]
  rfl

/-- What is booked for an answer of the two turns. -/
def usage : TokenUsage := { inputTokens := 0, outputTokens := 0, model := "m" }

theorem usage_fits (context : CycleContext) (step : String) :
    (UsageRecord.ofUsage context.prices step usage).Fits := rfl

/-- A critic whose written review can be applied criticises the least plan, whatever else the round
is given. -/
theorem critiques_leastPlan {context : CycleContext} {agents : Role → Agent}
    {written : WrittenReview} {others : List Reply} (attempts : 1 ≤ context.policy.attempts)
    (processes : Processes) (ready : agents .critic = .ready (replyOf written.text) others)
    (applicable : isApplicable (Review.parse written.text) = true) :
    let before : Surroundings := ⟨leastPlan, agents, processes⟩
    let answered := before.answered .critic (replyOf written.text) others
    Critiques context 1 before (answerOf written.text) answered
      { answered with
        files := criticisedPlan (critiqueBlock context 1 (Review.parse written.text)) } := by
  refine critiques_of_ready (leastPlan_isValid _) ready rfl (saysSomething_answerOf written)
    attempts rfl rfl (usage_fits context _) rfl rfl ?_
  change if isApplicable (Review.parse written.text) = true then _ else _
  rw [if_pos applicable]
  exact append_leastPlan _

theorem dialogue : Dialogue context "s" 2 turn := by
  have attempts : 1 ≤ context.policy.attempts := by decide
  refine ⟨fun i first upto => ?_, fun i first within => ?_, fun i first within => ?_⟩
  · obtain rfl | rfl : i = 1 ∨ i = 2 := by omega
    · exact critiques_leastPlan attempts means.processes rfl firstReview_isApplicable
    · refine critiques_of_ready (criticisedPlan_isValid _ firstBlock) rfl rfl
        (saysSomething_answerOf approval) attempts rfl rfl (usage_fits context _) rfl rfl ?_
      change if isApplicable lastReview = true then _ else _
      rw [if_pos lastReview_isApplicable]
      exact append_criticisedPlan firstBlock lastBlock
  · obtain rfl : i = 1 := by omega
    have resolved : context.lister.resolve conversations "s" = .ok 1 := rfl
    refine ⟨⟨conversations, 1, .index 1, ⟨_, rfl, rfl⟩, resolved, rfl, ?_⟩, _, rfl,
      usage_fits context _⟩
    exact Surroundings.gives_ready rfl rfl rfl attempts
  · obtain rfl : i = 1 := by omega
    rfl

theorem reached :
    2 = lastCritique context.policy.planningIterations.toNat fun i => (turn i).review := by
  have asks : (turn 1).review.AsksForRevision := firstReview_asks
  have rests : ¬(turn 2).review.AsksForRevision := Review.not_asks_of_approved lastReview_verdict
  change 2 = lastCritique 2 _
  simp [lastCritique, List.range', asks, rests]

theorem roundOutcome_turn : (turn 2).review.roundOutcome = .approved :=
  @roundOutcome_of_approved lastReview lastReview_verdict

theorem state_project : project.state (project.place root change.id) =
    { files := leastPlan, store := some { changes := [change] } } := rfl

theorem recorded : project.records root change.id = some { changes := [change] } :=
  congrArg ChangeState.store state_project

theorem files_project : (project.state (project.place root change.id)).files = leastPlan :=
  congrArg ChangeState.files state_project

theorem begins : (turn 1).before =
    ⟨(project.state (project.place root change.id)).files, cast.agents, means.processes⟩ := by
  rw [files_project]
  rfl

theorem valid : IsValid ⟨project.place root change.id,
    (project.state (project.place root change.id)).files⟩ := by
  rw [files_project]
  exact leastPlan_isValid _

theorem found : Store.find? { changes := [change] } change.id = some change := rfl

theorem played : project.players means = .ok cast := rfl

theorem listed : SessionLister.standard? project.settings = some lister := rfl

/-- After an objection and a revision the plan is approved. -/
theorem challenge_follows_two_turns :
    let report := project.challenge root change.id means
    report.result = .ok .approved ∧
      Event.acceptedCalls report.events =
        [(.critic, "challenge", answerOf objection.text),
          (.generator, "revise:1", answerOf "done"),
          (.critic, "challenge", answerOf approval.text)] := by
  obtain ⟨ended, calls, -⟩ := Project.challenge_follows_dialogue recorded found rfl rfl
    (by decide) played rfl listed (fun _ _ _ _ => rfl) rfl (by decide) begins valid reached dialogue
    rfl
  exact ⟨ended.trans (congrArg Except.ok roundOutcome_turn), calls⟩

/-- The approval as the answer to more tokens than a record can count. -/
def boundlessApproval : AgentAnswer :=
  { answerOf approval.text with inputTokens := Session.numberLimit }

/-- A critic that approves at once, with such an answer. -/
def boundlessAgents : Role → Agent
  | .critic => .ready { answer := .ok boundlessApproval } []
  | other => cast.agents other

/-- The cast with this critic. -/
def boundlessMeans : Means := { means with cast := some { cast with agents := boundlessAgents } }

/-- An approval with too great a count is accepted.  Then it breaks the round off and is nowhere on
record, so the dialogue alone does not decide how a round ends. -/
theorem boundless_approval_stops_round :
    let report := project.challenge root change.id boundlessMeans
    (Review.parse boundlessApproval.output).verdict = .approved ∧
      Event.acceptedCalls report.events = [(.critic, "challenge", boundlessApproval)] ∧
      report.result = .error (.breakdown .overflow) ∧
      ∃ kept, report.project.records root change.id = some kept ∧ kept.reviews = [] ∧
        kept.find? change.id = some change := by
  let ready := project.context root change { cast with agents := boundlessAgents } boundlessMeans
    lister
  let before : Surroundings := ⟨leastPlan, boundlessAgents, means.processes⟩
  have prepared : project.prepare root change.id boundlessMeans
      (project.start root change.id boundlessMeans { changes := [change] }) =
        (.ok (ready, .proposed), before.world { changes := [change] } []) :=
    Project.prepare_ok_iff.2 ⟨change, { cast with agents := boundlessAgents }, lister, found, rfl,
      listed, rfl, rfl, rfl, by rw [Project.start, files_project]; rfl⟩
  have valid : (folderIn ready before).IsValid := leastPlan_isValid _
  have unkept (store : Store) : keepCritique ready boundlessApproval
      (Review.parse boundlessApproval.output) (1 : Nat) store = .error (.breakdown .overflow) := rfl
  have gives (prompt : String) : before.Gives
      ((critiqueCall ready (folderIn ready before) prompt).run ready fun _ answer =>
        saysSomething answer) boundlessApproval
      (before.answered .critic { answer := .ok boundlessApproval } []) :=
    Surroundings.gives_ready rfl rfl (saysSomething_answerOf approval)
      (by decide : 1 ≤ context.policy.attempts)
  obtain ⟨kept, shown, ran, accepted, reviews, standing⟩ := runChallenge_of_unkept valid
    (by decide : (1 : Int) ≤ context.policy.planningIterations) gives unkept
    { changes := [change] } []
  rw [Project.challenge_eq, Project.within_onceReady recorded prepared ran]
  refine ⟨lastReview_verdict, ?_, rfl, kept, ?_, reviews, standing.trans found⟩
  · exact accepted
  · simp [Project.records, Surroundings.world]

end TwoTurns

end PlanCycle
