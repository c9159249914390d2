/-
Module: PlanCycle.Proofs.Critique
Purpose: What one critique of a plan does: what is kept of it, what follows from its verdict, and
  where it leaves the change.
Main exports:
  Review.entry, Review.nextPhase, Review.refusal?, Cycle.keepCritique_ok_iff,
  Cycle.critique_ok_iff, Cycle.applyCritique_of_applied, Cycle.challengeStep_cases
-/
import PlanCycle.Proofs.Standing

namespace PlanCycle

open Number Text

/-! ### What is kept of a critique -/

namespace Review

/-- A critique of the plan as it is kept. -/
def entry (context : CycleContext) (review : Review) (iteration : Int) : ReviewEntry :=
  { changeId := context.changeId, artifact := Artifact.proposal.name, kind := ReviewEntry.critique
    verdict := review.verdict.word, issues := review.issues.map Cycle.issueRecord
    rawText := review.rawText, iteration }

/-- The phase after a critique.  A verdict that cannot be applied moves nothing. -/
def nextPhase (review : Review) (phase : Phase) : Phase :=
  if Cycle.isApplicable review then (Phase.ofVerdict? review.verdict).getD phase else phase

/-- Why the verdict of a critique is not applied. -/
def refusal? (review : Review) : Option Failure :=
  if review.verdict = .unknown then some .noVerdict
  else if !review.isConsistent then some (.noIssues review.verdict)
  else none

/-- Whether the plan has to be revised: changes are wanted, and at least one issue says which. -/
def AsksForRevision (review : Review) : Prop :=
  review.verdict = .needsRevision ∧ review.issues ≠ []

instance (review : Review) : Decidable review.AsksForRevision :=
  inferInstanceAs (Decidable (review.verdict = .needsRevision ∧ review.issues ≠ []))

/-- A plan that has to be revised is proposed as before. -/
theorem AsksForRevision.nextPhase {review : Review} (asks : review.AsksForRevision) :
    review.nextPhase .proposed = .proposed := by
  unfold Review.nextPhase
  split
  · rw [asks.1]
    rfl
  · rfl

theorem not_asks_of_approved {review : Review} (approved : review.verdict = .approved) :
    ¬review.AsksForRevision := by
  intro asks
  rw [asks.1] at approved
  cases approved

theorem refusal?_eq_none_iff {review : Review} :
    review.refusal? = none ↔ Cycle.isApplicable review = true := by
  unfold refusal? Cycle.isApplicable
  by_cases unknown : review.verdict = .unknown
  · simp [unknown]
  · cases consistent : review.isConsistent with
    | true => simp [unknown]
    | false => simp [unknown]

end Review

namespace Store

/-- Of two records that take the place of one, the second stays. -/
theorem withChange_withChange (store : Store) {first second : Change}
    (same : first.id = second.id) :
    (store.withChange first).withChange second = store.withChange second := by
  have once : ∀ known : Change,
      (if (if known.id = first.id then first else known).id = second.id then second
        else if known.id = first.id then first else known) =
      if known.id = second.id then second else known := by
    intro known
    by_cases named : known.id = second.id
    · simp [named, same]
    · simp [named, same]
  simp only [withChange, List.map_map]
  congr 1
  exact List.map_congr_left fun known _ => once known

end Store

theorem Change.applyVerdict_ok_iff {change moved : Change} {verdict : Verdict} :
    change.applyVerdict verdict = .ok moved ↔
      ∃ target, Phase.ofVerdict? verdict = some target ∧ change.phase = .proposed ∧
        moved = { change with phase := target } := by
  unfold applyVerdict
  cases verdict with
  | unknown => simp [Phase.ofVerdict?]
  | approved =>
      by_cases proposed : change.phase = .proposed
      · simp [Phase.ofVerdict?, moveTo, Phase.next, proposed, eq_comm]
      · simp [Phase.ofVerdict?, proposed]
  | needsRevision =>
      by_cases proposed : change.phase = .proposed
      · simp [Phase.ofVerdict?, moveTo, Phase.next, proposed, eq_comm]
      · simp [Phase.ofVerdict?, proposed]
  | rejected =>
      by_cases proposed : change.phase = .proposed
      · simp [Phase.ofVerdict?, moveTo, Phase.next, proposed, eq_comm]
      · simp [Phase.ofVerdict?, proposed]

namespace Cycle

/-- The record of a change after a critique. -/
def criticised (change : Change) (review : Review) (iteration : Int) : Change :=
  { change with
    phase := review.nextPhase change.phase
    lastAction := some ("challenge " ++ intText iteration ++ ": " ++ review.verdict.word) }

/-- The records after a critique. -/
def withCritique (context : CycleContext) (change : Change) (used : UsageRecord)
    (review : Review) (iteration : Int) (store : Store) : Store :=
  { store.withChange (criticised change review iteration) with
    reviews := store.reviews ++ [review.entry context iteration]
    usage := store.usage ++ [.ofRecord context.changeId used] }

theorem keepReview_ok_iff {context : CycleContext} {artifact : Artifact} {kind : String}
    {review : Review} {iteration : Int} {store last : Store} {value : Unit} :
    keepReview context artifact kind review iteration store = .ok (value, last) ↔
      (∃ change, store.find? context.changeId = some change) ∧
        Session.fits [iteration] = true ∧
        last = { store with
          reviews := store.reviews ++
            [{ changeId := context.changeId, artifact := artifact.name, kind
               verdict := review.verdict.word, issues := review.issues.map issueRecord
               rawText := review.rawText, iteration }] } := by
  unfold keepReview
  simp only [Session.bind_ok_iff, Session.addReview_ok_iff, Session.pure_ok_iff]
  constructor
  · rintro ⟨_, _, ⟨found, fit, -, rfl⟩, -, rfl⟩
    exact ⟨found, fit, rfl⟩
  · rintro ⟨found, fit, rfl⟩
    exact ⟨_, _, ⟨found, fit, rfl, rfl⟩, trivial, rfl⟩

theorem keepAction_ok_iff {context : CycleContext} {action : String} {store last : Store}
    {value : Unit} :
    keepAction context action store = .ok (value, last) ↔
      ∃ change, store.find? context.changeId = some change ∧
        Session.fits [change.iteration] = true ∧
        last = store.withChange { change with lastAction := some action } := by
  unfold keepAction
  simp only [Session.bind_ok_iff, Session.modify_ok_iff, Session.pure_ok_iff]
  constructor
  · rintro ⟨_, _, ⟨change, found, rfl, fit, rfl⟩, -, rfl⟩
    exact ⟨change, found, fit, rfl⟩
  · rintro ⟨change, found, fit, rfl⟩
    exact ⟨_, _, ⟨change, found, rfl, fit, rfl⟩, trivial, rfl⟩

/-- A critique is kept as a whole: with its use of the critic, its entry and its verdict.  A
verdict that can be applied needs a proposed change, and the entry needs an answer that can be kept
as it is. -/
theorem keepCritique_ok_iff {context : CycleContext} {answer : AgentAnswer} {review : Review}
    {iteration : Int} {store last : Store} {value : Unit} :
    keepCritique context answer review iteration store = .ok (value, last) ↔
      ∃ used change, answer.record? context "challenge" = some used ∧ used.Fits ∧
        answer.isWhole = true ∧
        store.find? context.changeId = some change ∧ Session.fits [iteration] = true ∧
        Session.fits [change.iteration] = true ∧
        (isApplicable review = true → change.phase = .proposed) ∧
        last = withCritique context change used review iteration store := by
  unfold keepCritique
  simp only [Session.bind_ok_iff, recordUsage_ok_iff, requireWhole_ok_iff, keepReview_ok_iff]
  constructor
  · rintro ⟨used, _, ⟨recorded, fit, rfl⟩, _, _, ⟨whole, rfl⟩, _, _, ⟨-, small, rfl⟩, rest⟩
    refine ⟨used, ?_⟩
    split at rest
    · rename_i applicable
      simp only [Session.bind_ok_iff, Session.advance_ok_iff, keepAction_ok_iff] at rest
      obtain ⟨moved, _, ⟨change, found, applied, steady, rfl⟩, other, again, -, rfl⟩ := rest
      obtain ⟨target, verdict, proposed, rfl⟩ := Change.applyVerdict_ok_iff.1 applied
      obtain rfl := Option.some.inj (again.symm.trans (Store.find?_withChange_self found rfl))
      refine ⟨change, recorded, fit, whole, found, small, steady, fun _ => proposed, ?_⟩
      refine Eq.trans (Store.withChange_withChange _ rfl) ?_
      simp only [withCritique, criticised, Review.nextPhase, applicable, if_true, verdict,
        Option.getD_some]
      rfl
    · rename_i inapplicable
      obtain ⟨change, found, steady, rfl⟩ := keepAction_ok_iff.1 rest
      refine ⟨change, recorded, fit, whole, found, small, steady,
        fun applicable => absurd applicable inapplicable, ?_⟩
      simp only [withCritique, criticised, Review.nextPhase, inapplicable]
      rfl
  · rintro ⟨used, change, recorded, fit, whole, found, small, steady, proposed, rfl⟩
    refine ⟨used, _, ⟨recorded, fit, rfl⟩, (), _, ⟨whole, rfl⟩, (), _,
      ⟨⟨change, found⟩, small, rfl⟩, ?_⟩
    split
    · rename_i applicable
      have known : ∃ target, Phase.ofVerdict? review.verdict = some target := by
        unfold isApplicable at applicable
        cases verdict : review.verdict with
        | unknown => simp [verdict] at applicable
        | approved => exact ⟨_, rfl⟩
        | needsRevision => exact ⟨_, rfl⟩
        | rejected => exact ⟨_, rfl⟩
      obtain ⟨target, verdict⟩ := known
      have applied := Change.applyVerdict_ok_iff.2 ⟨target, verdict, proposed applicable, rfl⟩
      simp only [Session.bind_ok_iff, Session.advance_ok_iff, keepAction_ok_iff]
      refine ⟨{ change with phase := target }, _, ⟨change, found, applied, steady, rfl⟩,
        { change with phase := target }, Store.find?_withChange_self found rfl, steady, ?_⟩
      refine Eq.symm (Eq.trans (Store.withChange_withChange _ rfl) ?_)
      simp only [withCritique, criticised, Review.nextPhase, applicable, if_true, verdict,
        Option.getD_some]
      rfl
    · rename_i inapplicable
      refine keepAction_ok_iff.2 ⟨change, found, steady, ?_⟩
      simp only [withCritique, criticised, Review.nextPhase, inapplicable]
      rfl

section
variable {context : CycleContext} {change : Change} {used : UsageRecord} {review : Review}
variable {iteration : Int} {store : Store}

theorem find?_withCritique (found : store.find? context.changeId = some change) :
    (withCritique context change used review iteration store).find? context.changeId =
      some (criticised change review iteration) :=
  Store.find?_withChange_self found rfl

/-- A critique that is kept is the last one, and its verdict decides the phase. -/
theorem standing_withCritique (found : store.find? context.changeId = some change) :
    (withCritique context change used review iteration store).standing context.changeId =
      (some (review.nextPhase change.phase), some (review.entry context iteration)) := by
  refine Prod.ext ?_ ?_
  · exact congrArg (Option.map (·.phase)) (find?_withCritique found)
  · have critique : (review.entry context iteration).kind = ReviewEntry.critique := rfl
    exact Store.latestCritique?_critique critique

end

/-! ### Asking for a critique -/

/-- The warnings about what a call used. -/
def usageWarnings (step : String) (answer : AgentAnswer) : List Event :=
  match answer.shownUsage? with
  | some usage => (UsageRecord.warning? step usage).toList.map .warning
  | none => []

@[simp] theorem warnOfUsage_apply (step : String) (answer : AgentAnswer) (world : World) :
    warnOfUsage step answer world = (.ok (), world.shows (usageWarnings step answer)) := by
  unfold warnOfUsage usageWarnings
  cases answer.shownUsage? with
  | none => simp
  | some usage => exact Run.warnAll_apply _ world

/-- The line before a critique. -/
def critiqueLine (context : CycleContext) (iteration : Nat) : Event :=
  .line ("[cyan]Challenging " ++ context.changeId ++ " (iteration " ++ toString iteration ++
    ")...[/cyan]")

/-- The call that asks for a critique of documents. -/
def critiqueCall (context : CycleContext) (folder : ChangeFolder) (prompt : String) : AgentCall :=
  { step := "challenge", role := .critic, prompt
    environment := environment context .critic folder }

/-- The warnings about an answer to a call for a critique. -/
def critiqueWarnings (answer : AgentAnswer) : List Event :=
  (Review.warnings answer.output).map .warning ++ usageWarnings "challenge" answer

theorem critiqueWarnings_asksOnly {mayAsk : Role → Prop} (answer : AgentAnswer) :
    ∀ event ∈ critiqueWarnings answer, event.AsksOnly mayAsk := by
  unfold critiqueWarnings usageWarnings
  intro event member
  rcases List.mem_append.mp member with read | used
  · obtain ⟨text, -, rfl⟩ := List.mem_map.mp read
    trivial
  · split at used
    · obtain ⟨text, -, rfl⟩ := List.mem_map.mp used
      trivial
    · cases used

section
variable {context : CycleContext} {iteration : Nat} {world last : World}

/-- A critique gives a review exactly if its prompt can be written, an answer is accepted and the
review can be kept. -/
theorem critique_ok_iff {review : Review} :
    critique context iteration world = (.ok review, last) ↔
      ∃ prompt answer after store,
        (context.folder world).critiquePrompt context.changeId iteration context.criticName =
          .ok prompt ∧
        (critiqueCall context (context.folder world) prompt).run context
            (fun _ answer => saysSomething answer)
            (world.shows [critiqueLine context iteration]) = (.ok answer, after) ∧
        review = Review.parse answer.output ∧
        keepCritique context answer review iteration after.store = .ok ((), store) ∧
        last = { after.shows (critiqueWarnings answer) with store } := by
  unfold critique documents
  rw [Run.bind_of_ok (Run.look_apply _ world), Run.bind_of_ok (Run.say_apply _ world)]
  constructor
  · intro ran
    obtain ⟨prompt, _, read, ran⟩ := Run.bind_ok ran
    obtain ⟨prompted, rfl⟩ := Run.ofFiles_ok_iff.1 read
    obtain ⟨answer, after, answered, ran⟩ := Run.bind_ok ran
    rw [Run.bind_of_ok (Run.warnAll_apply _ after), Run.bind_of_ok (warnOfUsage_apply _ _ _),
      World.shows_shows] at ran
    obtain ⟨_, _, kept, ran⟩ := Run.bind_ok ran
    cases ran
    rcases Run.session_cases kept with ⟨_, _, impossible, _⟩ | ⟨_, store, worked, _, rfl⟩
    · cases impossible
    · exact ⟨prompt, answer, after, store, prompted, answered, rfl, worked, rfl⟩
  · rintro ⟨prompt, answer, after, store, prompted, answered, rfl, worked, rfl⟩
    rw [Run.bind_of_ok (Run.ofFiles_ok_iff.2 ⟨prompted, rfl⟩)]
    refine (Run.bind_of_ok answered).trans ?_
    rw [Run.bind_of_ok (Run.warnAll_apply _ after), Run.bind_of_ok (warnOfUsage_apply _ _ _),
      World.shows_shows]
    exact Run.bind_of_ok (Run.session_of_ok worked)

/-- A critique that cannot be kept stops with what its session stops with. -/
theorem critique_of_unkept {prompt : String} {answer : AgentAnswer} {after : World} {reason : Stop}
    (prompted : (context.folder world).critiquePrompt context.changeId iteration
      context.criticName = .ok prompt)
    (answered : (critiqueCall context (context.folder world) prompt).run context
      (fun _ answer => saysSomething answer) (world.shows [critiqueLine context iteration]) =
        (.ok answer, after))
    (unkept : keepCritique context answer (Review.parse answer.output) iteration after.store =
      .error reason) :
    critique context iteration world = (.error reason, after.shows (critiqueWarnings answer)) := by
  unfold critique documents
  rw [Run.bind_of_ok (Run.look_apply _ world), Run.bind_of_ok (Run.say_apply _ world),
    Run.bind_of_ok (Run.ofFiles_ok_iff.2 ⟨prompted, rfl⟩)]
  refine (Run.bind_of_ok answered).trans ?_
  rw [Run.bind_of_ok (Run.warnAll_apply _ after), Run.bind_of_ok (warnOfUsage_apply _ _ _),
    World.shows_shows]
  exact Run.bind_of_error (Run.session_of_error unkept)

/-- A critique that is not kept goes aside. -/
theorem critique_error {id : String} {mayAsk : Role → Prop} {reason : Stop}
    (asked : mayAsk .critic)
    (ran : critique context iteration world = (.error reason, last)) :
    world.Aside id mayAsk last := by
  unfold critique documents at ran
  rw [Run.bind_of_ok (Run.look_apply _ world), Run.bind_of_ok (Run.say_apply _ world)] at ran
  have begun : world.Aside id mayAsk (world.shows [critiqueLine context iteration]) :=
    .shows (by simp [critiqueLine, Event.AsksOnly])
  apply begun.trans
  rcases Run.bind_cases ran with ⟨_, stopped, -⟩ | ⟨prompt, _, read, ran⟩
  · exact Run.IsAside.aside (.ofFiles _) stopped
  obtain ⟨-, rfl⟩ := Run.ofFiles_ok_iff.1 read
  have asking : Run.IsAside id mayAsk
      ((critiqueCall context (context.folder world) prompt).run context
        fun _ answer => saysSomething answer) := .call asked _ _
  rcases Run.bind_cases ran with ⟨_, stopped, -⟩ | ⟨answer, after, answered, ran⟩
  · exact asking.aside stopped
  refine (asking.aside answered).trans ?_
  rw [Run.bind_of_ok (Run.warnAll_apply _ after), Run.bind_of_ok (warnOfUsage_apply _ _ _),
    World.shows_shows] at ran
  rcases Run.bind_cases ran with ⟨_, stopped, -⟩ | ⟨_, _, _, impossible⟩
  · rcases Run.session_cases stopped with ⟨_, _, _, rfl⟩ | ⟨_, _, _, impossible, _⟩
    · exact .shows (critiqueWarnings_asksOnly answer)
    · cases impossible
  · cases impossible

/-- A critique that gives a review is the last one of its change and decides its phase. -/
theorem standing_critique {review : Review}
    (ran : critique context iteration world = (.ok review, last)) :
    ∃ change, world.store.find? context.changeId = some change ∧
      (isApplicable review = true → change.phase = .proposed) ∧
      last.store.standing context.changeId =
        (some (review.nextPhase change.phase), some (review.entry context iteration)) := by
  obtain ⟨_, answer, after, _, -, answered, -, worked, rfl⟩ := critique_ok_iff.1 ran
  obtain ⟨used, change, -, -, -, found, -, -, proposed, rfl⟩ := keepCritique_ok_iff.1 worked
  have same := AgentCall.store_run answered
  rw [World.store_shows] at same
  exact ⟨change, same ▸ found, proposed, standing_withCritique found⟩

end

/-! ### What follows from a critique -/

/-- What a critique adds to the critiques of the plan. -/
def critiqueBlock (context : CycleContext) (iteration : Nat) (review : Review) : String :=
  review.render (some iteration) (some context.criticName) ++ "\n\n"

/-- How the step ends in which a verdict was applied. -/
def verdictEnd (review : Review) : StepEnd Review :=
  match review.verdict with
  | .approved => .ended .approved
  | .rejected => .ended .rejected
  | _ => .done review

/-- The line about a verdict that was applied. -/
def verdictLine (review : Review) : Event :=
  match review.verdict with
  | .approved => .line "[green]✓ Plan approved[/green]"
  | .rejected => .line "[red]✗ Plan rejected[/red]"
  | _ => .line ("[yellow]Revision requested: " ++ toString review.issues.length ++
      " issue(s)[/yellow]")

theorem verdictLine_asksOnly {mayAsk : Role → Prop} (review : Review) :
    (verdictLine review).AsksOnly mayAsk := by
  unfold verdictLine
  split
  · trivial
  · trivial
  · trivial

section
variable {context : CycleContext} {iteration : Nat} {review : Review} {world last : World}

theorem applyCritique_of_refused {failure : Failure} (refused : review.refusal? = some failure) :
    applyCritique context iteration review world = (.error (.failure failure), world) := by
  unfold Review.refusal? at refused
  unfold applyCritique
  by_cases unknown : review.verdict = .unknown
  · rw [if_pos unknown] at refused ⊢
    cases refused
    rfl
  · rw [if_neg unknown] at refused ⊢
    by_cases inconsistent : (!review.isConsistent) = true
    · rw [if_pos inconsistent] at refused ⊢
      cases refused
      rfl
    · rw [if_neg inconsistent] at refused
      cases refused

/-- A verdict that is applied adds its critique to the others and decides how to go on. -/
theorem applyCritique_of_applied (applied : review.refusal? = none) :
    applyCritique context iteration review world =
      match world.files.append (Artifact.file .challenge)
          (critiqueBlock context iteration review) with
      | .ok files => (.ok (verdictEnd review), ({ world with files } : World).shows
          [verdictLine review])
      | .error fault => (.error (.ofFile fault), world) := by
  unfold Review.refusal? at applied
  unfold applyCritique
  by_cases unknown : review.verdict = .unknown
  · rw [if_pos unknown] at applied
    cases applied
  · rw [if_neg unknown] at applied ⊢
    by_cases inconsistent : (!review.isConsistent) = true
    · rw [if_pos inconsistent] at applied
      cases applied
    · rw [if_neg inconsistent]
      cases filed : world.files.append (Artifact.file .challenge)
          (critiqueBlock context iteration review) with
      | error fault =>
          have stopped : Run.changeFiles (·.append (Artifact.file .challenge)
              (critiqueBlock context iteration review)) world =
                (.error (.ofFile fault), world) := by
            simp only [Run.changeFiles, filed]
          exact Run.bind_of_error stopped
      | ok files =>
          have changed : Run.changeFiles (·.append (Artifact.file .challenge)
              (critiqueBlock context iteration review)) world =
                (.ok (), { world with files }) := by
            simp only [Run.changeFiles, filed]
          refine (Run.bind_of_ok changed).trans ?_
          unfold verdictEnd verdictLine
          cases review.verdict with
          | approved => rfl
          | rejected => rfl
          | needsRevision => rfl
          | unknown => rfl

end

/-! ### The step of a critique -/

/-- A step that fails ends the cycle with an error. -/
theorem ofFailure_isError (step : String) (failure : Failure) :
    ∃ kind call message, CycleOutcome.ofFailure step failure = .error kind call message := by
  unfold CycleOutcome.ofFailure
  split
  · exact ⟨_, _, _, rfl⟩
  · exact ⟨_, _, _, rfl⟩

section
variable {context : CycleContext} {iteration : Nat} {review : Review} {world kept : World}

/-- A critique that is kept but cannot be applied ends the cycle with its failure. -/
theorem challengeStep_of_refused {failure : Failure}
    (can : CanReport context "challenge" failure)
    (made : critique context iteration (world.logs (stepEvent context "challenge" "started")) =
      (.ok review, kept)) (refused : review.refusal? = some failure) :
    challengeStep context iteration world =
      (.ok (.ended (.ofFailure "challenge" failure)),
        afterFailure context "challenge" failure kept) := by
  apply runStep_of_failure can
  rw [Run.bind_of_ok made, applyCritique_of_refused refused]

/-- A critique that is kept and applied is added to the others, and its verdict ends the step. -/
theorem challengeStep_of_applied {files : Folder}
    (made : critique context iteration (world.logs (stepEvent context "challenge" "started")) =
      (.ok review, kept)) (applied : review.refusal? = none)
    (filed : kept.files.append (Artifact.file .challenge) (critiqueBlock context iteration review) =
      .ok files) :
    challengeStep context iteration world =
      (.ok (verdictEnd review),
        (({ kept with files } : World).shows [verdictLine review]).logs
          (stepEvent context "challenge" "completed" (verdictEnd review).note?)) := by
  apply runStep_of_ok
  rw [Run.bind_of_ok made, applyCritique_of_applied applied, filed]

end

/-- What becomes of a critique that is kept: an error, or the end that its verdict decides. -/
inductive CritiqueEnd (review : Review) : Except Stop (StepEnd Review) → Prop
  | stopped (reason : Stop) : CritiqueEnd review (.error reason)
  | failed (failure : Failure) :
      CritiqueEnd review (.ok (.ended (.ofFailure "challenge" failure)))
  | applied (ending : StepEnd Review) (applicable : isApplicable review = true)
      (same : ending = verdictEnd review) : CritiqueEnd review (.ok ending)

/-- A step of a critique that does not end the cycle leaves a plan to be revised. -/
theorem CritiqueEnd.asksForRevision {review other : Review}
    (ends : CritiqueEnd review (.ok (.done other))) : other = review ∧ review.AsksForRevision := by
  cases ends with
  | applied _ applicable same =>
      unfold isApplicable at applicable
      unfold verdictEnd at same
      cases verdict : review.verdict with
      | approved => simp [verdict] at same
      | rejected => simp [verdict] at same
      | unknown => simp [verdict] at applicable
      | needsRevision =>
          rw [verdict] at same
          cases same
          refine ⟨rfl, verdict, ?_⟩
          simpa [verdict, Review.isConsistent, Review.requestsChanges] using applicable

/-- The step of a critique goes aside without an outcome that a verdict gives, or its critique is
kept.  Once that is kept only the files and the log change, and nobody is asked. -/
theorem challengeStep_cases {context : CycleContext} {iteration : Nat} {world last : World}
    {result : Except Stop (StepEnd Review)}
    (ran : challengeStep context iteration world = (result, last)) :
    ((∀ id mayAsk, mayAsk Role.critic → world.Aside id mayAsk last) ∧
        ((∃ reason, result = .error reason) ∨
          ∃ failure, result = .ok (.ended (.ofFailure "challenge" failure)))) ∨
      ∃ review kept,
        critique context iteration (world.logs (stepEvent context "challenge" "started")) =
          (.ok review, kept) ∧
        (∀ id mayAsk, kept.Aside id mayAsk last) ∧ CritiqueEnd review result := by
  rcases made : critique context iteration
      (world.logs (stepEvent context "challenge" "started")) with ⟨reason | review, kept⟩
  · obtain ⟨later, ends⟩ := runStep_of_error (Run.bind_of_error made) ran
    refine .inl ⟨fun id mayAsk asked => ?_, ends⟩
    exact (World.Aside.logs.trans (critique_error asked made)).trans (later id mayAsk)
  · refine .inr ⟨review, kept, rfl, ?_⟩
    cases refusal : review.refusal? with
    | some failure =>
        obtain ⟨later, ends⟩ := runStep_of_error
          ((Run.bind_of_ok made).trans (applyCritique_of_refused refusal)) ran
        refine ⟨later, ?_⟩
        rcases ends with ⟨reason, rfl⟩ | ⟨failure, rfl⟩
        · exact .stopped reason
        · exact .failed failure
    | none =>
        have applicable := Review.refusal?_eq_none_iff.1 refusal
        cases filed : kept.files.append (Artifact.file .challenge)
            (critiqueBlock context iteration review) with
        | ok files =>
            rw [challengeStep_of_applied made refusal filed] at ran
            cases ran
            refine ⟨fun id mayAsk => ?_, .applied _ applicable rfl⟩
            exact ⟨rfl, rfl, [verdictLine review], rfl, by simp [verdictLine_asksOnly]⟩
        | error fault =>
            have stopped : applyCritique context iteration review kept = _ :=
              applyCritique_of_applied refusal
            rw [filed] at stopped
            obtain ⟨later, ends⟩ := runStep_of_error ((Run.bind_of_ok made).trans stopped) ran
            refine ⟨later, ?_⟩
            rcases ends with ⟨reason, rfl⟩ | ⟨failure, rfl⟩
            · exact .stopped reason
            · exact .failed failure

end Cycle

end PlanCycle
