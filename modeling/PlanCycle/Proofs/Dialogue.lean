/-
Module: PlanCycle.Proofs.Dialogue
Purpose: A round of critiques as a dialogue of critic and generator: given what each of them answers
  and does to the files, what the round asks, keeps, files and gives.
Main exports:
  Event.acceptedCalls, Cycle.Critiques, Cycle.Revises, Cycle.challengeStep_gives,
  Cycle.reviseStep_gives, Cycle.Exchange, Cycle.Dialogue
-/
import PlanCycle.Proofs.Critique
import PlanCycle.Proofs.Surroundings

namespace PlanCycle

open Number Text

/-! ### Accepted answers -/

/-- The role and the step of a call whose answer was accepted, with the answer. -/
def Event.accepted? : Event → Option (Role × String × AgentAnswer)
  | .answered call answer true _ => some (call.role, call.step, answer)
  | _ => none

/-- The calls of a trace whose answers were accepted, in order. -/
def Event.acceptedCalls (events : List Event) : List (Role × String × AgentAnswer) :=
  events.filterMap accepted?

@[simp] theorem Event.acceptedCalls_append (first second : List Event) :
    acceptedCalls (first ++ second) = acceptedCalls first ++ acceptedCalls second :=
  List.filterMap_append

@[simp] theorem Event.acceptedCalls_nil : acceptedCalls [] = [] := rfl

@[simp] theorem Event.acceptedCalls_line (text : String) (events : List Event) :
    acceptedCalls (.line text :: events) = acceptedCalls events := rfl

theorem Event.acceptedCalls_of_shown {events : List Event}
    (shown : ∀ event ∈ events, event.accepted? = none) : acceptedCalls events = [] :=
  List.filterMap_eq_nil_iff.mpr shown

theorem AgentCall.IsAttempt.accepted? {call : AgentCall} {event : Event}
    (attempt : call.IsAttempt event) : event.accepted? = none := by
  cases event with
  | answered other answer accepted files =>
      obtain ⟨-, rfl⟩ := attempt
      rfl
  | asked other files => rfl
  | line text => rfl
  | panel title text => rfl
  | table title columns rows => rfl
  | warning text => rfl
  | ran spawn result => rfl

/-- A call that gives an answer has just that one accepted. -/
theorem AgentCall.acceptedCalls_run {call : AgentCall} {context : CycleContext}
    {accept : Folder → AgentAnswer → Bool} {world last : World} {answer : AgentAnswer}
    (ran : call.run context accept world = (.ok answer, last)) :
    Event.acceptedCalls last.events =
      Event.acceptedCalls world.events ++ [(call.role, call.step, answer)] := by
  rcases run_leaves ran with ⟨impossible, -⟩ | ⟨⟨-, tried, attempts, events⟩, -⟩
  · cases impossible
  · have none_tried : Event.acceptedCalls tried = [] :=
      Event.acceptedCalls_of_shown fun event member => (attempts event member).accepted?
    have asked : Event.acceptedCalls (.asked call world.files :: tried) =
        Event.acceptedCalls tried := rfl
    rw [events, Event.acceptedCalls_append, Event.acceptedCalls_append, asked, none_tried]
    simp [ending, Event.acceptedCalls, Event.accepted?]

/-- What a call gives in its surroundings it gives with any records, and its answer is accepted. -/
theorem Surroundings.Gives.call {before after : Surroundings} {call : AgentCall}
    {context : CycleContext} {accept : Folder → AgentAnswer → Bool} {answer : AgentAnswer}
    (gives : before.Gives (call.run context accept) answer after) (store : Store)
    (events : List Event) :
    ∃ added, call.run context accept (before.world store events) =
        (.ok answer, after.world store (events ++ added)) ∧
      Event.acceptedCalls added = [(call.role, call.step, answer)] := by
  obtain ⟨added, ran⟩ := gives.run (call.run_isLocal context accept) store events
  refine ⟨added, ran, ?_⟩
  have accepted := AgentCall.acceptedCalls_run ran
  simpa [Surroundings.world] using accepted

namespace Cycle

/-! ### One critique -/

/-- The documents of the change in some surroundings. -/
def folderIn (context : CycleContext) (surroundings : Surroundings) : ChangeFolder :=
  ⟨context.place, surroundings.files⟩

/-- How the surroundings take part in a critique: its prompt can be written, the critic's answer is
accepted, its text can be kept and its use fits into the records, and a verdict that is applied can
be filed. -/
structure Critiques (context : CycleContext) (iteration : Nat) (before : Surroundings)
    (answer : AgentAnswer) (answered filed : Surroundings) : Prop where
  asked : ∃ prompt,
    (folderIn context before).critiquePrompt context.changeId iteration context.criticName =
      .ok prompt ∧
    before.Gives ((critiqueCall context (folderIn context before) prompt).run context
      fun _ answer => saysSomething answer) answer answered
  whole : answer.isWhole = true
  used : ∃ used, answer.record? context "challenge" = some used ∧ used.Fits
  agents : filed.agents = answered.agents
  processes : filed.processes = answered.processes
  filed : if isApplicable (Review.parse answer.output) then
      answered.files.append (Artifact.file .challenge)
        (critiqueBlock context iteration (Review.parse answer.output)) = .ok filed.files
    else filed.files = answered.files

/-- How a critique that is kept ends its step. -/
def critiqueEnding (review : Review) : StepEnd Review :=
  match review.refusal? with
  | some failure => .ended (.ofFailure "challenge" failure)
  | none => verdictEnd review

section
variable {context : CycleContext} {iteration : Nat} {before answered filed : Surroundings}
variable {answer : AgentAnswer} {store : Store} {change : Change}

theorem acceptedCalls_warnings (texts : List String) :
    Event.acceptedCalls (texts.map .warning) = [] := by
  refine Event.acceptedCalls_of_shown fun event member => ?_
  obtain ⟨text, -, rfl⟩ := List.mem_map.mp member
  rfl

@[simp] theorem acceptedCalls_usageWarnings (step : String) (answer : AgentAnswer) :
    Event.acceptedCalls (usageWarnings step answer) = [] := by
  unfold usageWarnings
  split
  · exact acceptedCalls_warnings _
  · rfl

@[simp] theorem acceptedCalls_critiqueWarnings (answer : AgentAnswer) :
    Event.acceptedCalls (critiqueWarnings answer) = [] := by
  simp [critiqueWarnings, acceptedCalls_warnings]

theorem acceptedCalls_verdictLine (review : Review) :
    Event.acceptedCalls [verdictLine review] = [] := by
  unfold verdictLine
  split
  · rfl
  · rfl
  · rfl

/-- A critique of a proposed change is made and kept if the surroundings take their part. -/
theorem critique_gives (critiques : Critiques context iteration before answer answered filed)
    (found : store.find? context.changeId = some change) (proposed : change.phase = .proposed)
    (fits : Session.fits [(iteration : Int), change.iteration] = true) (events : List Event) :
    ∃ used shown,
      critique context iteration (before.world store events) =
        (.ok (Review.parse answer.output), answered.world
          (withCritique context change used (Review.parse answer.output) iteration store)
          (events ++ shown)) ∧
      Event.acceptedCalls shown = [(.critic, "challenge", answer)] := by
  obtain ⟨⟨prompt, prompted, gives⟩, whole, ⟨used, recorded, small⟩, -, -, -⟩ := critiques
  obtain ⟨added, ran, accepted⟩ := gives.call store (events ++ [critiqueLine context iteration])
  have fit : Session.fits [(iteration : Int)] = true ∧ Session.fits [change.iteration] = true := by
    simpa [Session.fits] using fits
  have kept : keepCritique context answer (Review.parse answer.output) iteration store =
      .ok ((), withCritique context change used (Review.parse answer.output) iteration store) :=
    keepCritique_ok_iff.2
      ⟨used, change, recorded, small, whole, found, fit.1, fit.2, fun _ => proposed, rfl⟩
  refine ⟨used, [critiqueLine context iteration] ++ added ++ critiqueWarnings answer, ?_, ?_⟩
  · refine critique_ok_iff.2 ⟨prompt, answer, _, _, prompted, ran, rfl, kept, ?_⟩
    simp [Surroundings.world, World.shows]
  · simp [accepted, critiqueLine, critiqueCall]

/-- A critique that cannot be applied is a failure whose message holds no marks. -/
theorem canReport_of_refusal {review : Review} {failure : Failure}
    (styled : context.console.TakesStyled) (refused : review.refusal? = some failure) :
    CanReport context "challenge" failure := by
  have either : failure = .noVerdict ∨ ∃ verdict, failure = .noIssues verdict := by
    unfold Review.refusal? at refused
    split at refused
    · exact .inl (Option.some.inj refused).symm
    · split at refused
      · exact .inr ⟨_, (Option.some.inj refused).symm⟩
      · cases refused
  have name : IsUnmarked "challenge" := .spelled (by decide)
  rcases either with rfl | ⟨verdict, rfl⟩
  · exact canReport_of_unmarked styled name (.spelled (by decide)) rfl
  · refine canReport_of_unmarked styled name ?_ rfl
    have word : IsUnmarked verdict.word := by
      cases verdict with
      | approved => exact .spelled (by decide)
      | needsRevision => exact .spelled (by decide)
      | rejected => exact .spelled (by decide)
      | unknown => exact .spelled (by decide)
    exact (IsUnmarked.append (.spelled (by decide)) word).append (.spelled (by decide))

/-- The step of a critique keeps it, files it if its verdict is applied, and ends as its verdict
decides. -/
theorem challengeStep_gives (styled : context.console.TakesStyled)
    (critiques : Critiques context iteration before answer answered filed)
    (found : store.find? context.changeId = some change) (proposed : change.phase = .proposed)
    (fits : Session.fits [(iteration : Int), change.iteration] = true) (events : List Event) :
    ∃ last shown,
      challengeStep context iteration (before.world store events) =
        (.ok (critiqueEnding (Review.parse answer.output)), filed.world last (events ++ shown)) ∧
      last.find? context.changeId =
        some (criticised change (Review.parse answer.output) iteration) ∧
      last.reviews = store.reviews ++ [(Review.parse answer.output).entry context iteration] ∧
      Event.acceptedCalls shown = [(.critic, "challenge", answer)] := by
  have foundLogged : (store.logged (stepEvent context "challenge" "started")).find?
      context.changeId = some change := found
  obtain ⟨used, shown, made, accepted⟩ := critique_gives critiques foundLogged proposed fits events
  rw [← Surroundings.logs_world] at made
  obtain ⟨-, -, -, sameAgents, sameProcesses, files⟩ := critiques
  let kept := withCritique context change used (Review.parse answer.output) iteration
    (store.logged (stepEvent context "challenge" "started"))
  have standing : kept.find? context.changeId =
      some (criticised change (Review.parse answer.output) iteration) :=
    find?_withCritique foundLogged
  unfold critiqueEnding
  cases refusal : (Review.parse answer.output).refusal? with
  | some failure =>
      have inapplicable : isApplicable (Review.parse answer.output) ≠ true := by
        intro applicable
        rw [Review.refusal?_eq_none_iff.2 applicable] at refusal
        cases refusal
      rw [if_neg inapplicable] at files
      refine ⟨kept.logged (failureEvent context "challenge" failure),
        shown ++ [.line (failureLine "challenge" failure)], ?_, standing, rfl, ?_⟩
      · rw [challengeStep_of_refused (canReport_of_refusal styled refusal) made refusal,
          afterFailure, Surroundings.shows_world,
          Surroundings.logs_world, List.append_assoc]
        simp only [Surroundings.world, files, sameAgents, sameProcesses, kept]
      · simp [accepted]
  | none =>
      have applicable := Review.refusal?_eq_none_iff.1 refusal
      rw [if_pos applicable] at files
      refine ⟨kept.logged (stepEvent context "challenge" "completed"
        (verdictEnd (Review.parse answer.output)).note?),
        shown ++ [verdictLine (Review.parse answer.output)], ?_, standing, rfl, ?_⟩
      · rw [challengeStep_of_applied made refusal files]
        simp only [Surroundings.world, sameAgents, sameProcesses, World.logs, World.shows, kept,
          List.append_assoc]
      · simp [accepted, acceptedCalls_verdictLine]

end

/-! ### One revision -/

/-- The call that has documents revised in an earlier conversation. -/
def revisionCall (context : CycleContext) (iteration : Nat) (folder : ChangeFolder)
    (review : Review) (resume : Resume) : AgentCall :=
  { step := "revise:" ++ toString iteration, role := .generator, resume
    prompt := folder.revisionPrompt context.changeId (review.render (some iteration))
    environment := environment context .generator folder }

/-- How the surroundings take part in a revision: the conversation is listed, and the generator's
answer is accepted and its use fits into the records. -/
structure Revises (context : CycleContext) (iteration : Nat) (conversation : String)
    (review : Review) (before listed : Surroundings) (answer : AgentAnswer)
    (revised : Surroundings) : Prop where
  asked : ∃ result index resume,
    before.Gives (Run.runProcess (context.lister.spawn context.root)) result listed ∧
    context.lister.resolve result conversation = .ok index ∧
    Resume.byIndex? index = some resume ∧
    listed.Gives ((revisionCall context iteration (folderIn context listed) review resume).run
      context) answer revised
  used : ∃ used, answer.record? context ("revise:" ++ toString iteration) = some used ∧ used.Fits

/-- The record of a change after a revision. -/
def revisedChange (change : Change) (iteration : Nat) : Change :=
  { change with
    iteration := change.iteration + 1
    lastAction := some ("revised after challenge " ++ toString iteration) }

/-- The records after a revision. -/
def withRevision (context : CycleContext) (change : Change) (used : UsageRecord)
    (iteration : Nat) (store : Store) : Store :=
  { store.withChange (revisedChange change iteration) with
    usage := store.usage ++ [.ofRecord context.changeId used] }

section
variable {context : CycleContext} {iteration : Nat} {before listed revised : Surroundings}
variable {conversation : String} {review : Review} {answer : AgentAnswer} {store : Store}
variable {change : Change}

theorem conversationIndex_gives {result : ProcessResult} {index : Int}
    (lists : before.Gives (Run.runProcess (context.lister.spawn context.root)) result listed)
    (resolved : context.lister.resolve result conversation = .ok index)
    (found : store.find? context.changeId = some change)
    (recorded : change.sessionId = some conversation) (named : conversation ≠ "")
    (events : List Event) :
    ∃ added, conversationIndex context (before.world store events) =
        (.ok index, listed.world store (events ++ added)) ∧
      Event.acceptedCalls added = [] := by
  obtain ⟨added, ran⟩ := lists.run (.runProcess _) store events
  refine ⟨added, ?_, ?_⟩
  · have loaded : Run.session (Session.load context.changeId) (before.world store events) =
        (.ok change, before.world store events) :=
      Run.session_of_ok (Session.load_ok_iff.2 ⟨found, rfl⟩)
    have known : change.sessionId.filter (· != "") = some conversation := by
      simp [recorded, named]
    unfold conversationIndex
    rw [Run.bind_of_ok loaded, known]
    refine (Run.bind_of_ok ran).trans ?_
    rw [Run.ofExcept_apply, resolved]
  · obtain ⟨ending, -, -, -, traced⟩ := Run.runProcess_cases ran
    have added_eq : added = [.ran (context.lister.spawn context.root ending) ending] :=
      List.append_cancel_left traced
    rw [added_eq]
    rfl

/-- What a revision keeps: its use of the generator and one more iteration. -/
theorem keepRevision_ok {used : UsageRecord}
    (recorded : answer.record? context ("revise:" ++ toString iteration) = some used)
    (small : used.Fits) (found : store.find? context.changeId = some change)
    (fits : Session.fits [change.iteration + 1] = true) :
    (do
      let _ ← recordUsage context ("revise:" ++ toString iteration) answer
      let _ ← Session.modify context.changeId fun change =>
        { change with iteration := change.iteration + 1 }
      keepAction context ("revised after challenge " ++ toString iteration)
      : Session Unit) store =
      .ok ((), withRevision context change used iteration store) := by
  simp only [Session.bind_ok_iff, recordUsage_ok_iff, Session.modify_ok_iff, keepAction_ok_iff]
  refine ⟨used, _, ⟨recorded, small, rfl⟩, { change with iteration := change.iteration + 1 }, _,
    ⟨change, found, rfl, fits, rfl⟩, { change with iteration := change.iteration + 1 },
    Store.find?_withChange_self found rfl, fits, ?_⟩
  exact Eq.symm (Store.withChange_withChange _ rfl)

/-- A revision is made in the conversation that is on record, and kept. -/
theorem revise_gives
    (revises : Revises context iteration conversation review before listed answer revised)
    (found : store.find? context.changeId = some change)
    (recorded : change.sessionId = some conversation) (named : conversation ≠ "")
    (fits : Session.fits [change.iteration + 1] = true) (events : List Event) :
    ∃ used shown,
      revise context iteration review (before.world store events) =
        (.ok (), revised.world (withRevision context change used iteration store)
          (events ++ shown)) ∧
      Event.acceptedCalls shown = [(.generator, "revise:" ++ toString iteration, answer)] := by
  obtain ⟨⟨result, index, resume, lists, resolved, resumed, gives⟩, used, using_, small⟩ := revises
  obtain ⟨looked, indexed, none_accepted⟩ :=
    conversationIndex_gives lists resolved found recorded named events
  let line : Event := .line ("[cyan]Revising in session #" ++ intText index ++ " (iteration " ++
    toString iteration ++ ")...[/cyan]")
  obtain ⟨added, ran, accepted⟩ := gives.call store (events ++ looked ++ [line])
  refine ⟨used, looked ++ [line] ++ added ++
    usageWarnings ("revise:" ++ toString iteration) answer, ?_, ?_⟩
  · unfold revise documents
    rw [Run.bind_of_ok indexed, Run.bind_of_ok (Run.say_apply _ _),
      Run.bind_of_ok (Run.look_apply _ _)]
    simp only [resumed]
    refine (Run.bind_of_ok ran).trans ?_
    rw [Run.bind_of_ok (warnOfUsage_apply _ _ _), Surroundings.shows_world]
    rw [Run.session_of_ok (keepRevision_ok using_ small found fits)]
    simp [Surroundings.world]
  · simp [accepted, none_accepted, line, revisionCall]

/-- A revision within the budget is made in the conversation that is on record. -/
theorem reviseStep_gives
    (revises : Revises context iteration conversation review before listed answer revised)
    (found : store.find? context.changeId = some change)
    (recorded : change.sessionId = some conversation) (named : conversation ≠ "")
    (allowed : (iteration : Int) < context.policy.planningIterations)
    (fits : Session.fits [change.iteration + 1] = true) (events : List Event) :
    ∃ last shown,
      reviseStep context iteration review (before.world store events) =
        (.ok (.done ()), revised.world last (events ++ shown)) ∧
      last.find? context.changeId = some (revisedChange change iteration) ∧
      last.reviews = store.reviews ∧
      Event.acceptedCalls shown = [(.generator, "revise:" ++ toString iteration, answer)] := by
  have foundLogged : (store.logged (stepEvent context "revise" "started")).find?
      context.changeId = some change := found
  obtain ⟨used, shown, made, accepted⟩ :=
    revise_gives revises foundLogged recorded named fits events
  rw [← Surroundings.logs_world] at made
  let kept := withRevision context change used iteration
    (store.logged (stepEvent context "revise" "started"))
  have standing : kept.find? context.changeId = some (revisedChange change iteration) :=
    Store.find?_withChange_self foundLogged rfl
  refine ⟨kept.logged (stepEvent context "revise" "completed"), shown, ?_, standing, rfl, accepted⟩
  have body : (if context.policy.planningIterations ≤ iteration then
        return .ended (.exhausted review.issues.length)
      else do
        revise context iteration review
        return .done () : Run (StepEnd Unit))
      ((before.world store events).logs (stepEvent context "revise" "started")) =
        (.ok (.done ()), revised.world kept (events ++ shown)) := by
    rw [if_neg (by omega), Run.bind_of_ok made]
    rfl
  exact runStep_of_ok body

/-- Without a budget for another critique the issues stay open. -/
theorem reviseStep_of_spent {world : World}
    (spent : context.policy.planningIterations ≤ iteration) :
    reviseStep context iteration review world =
      (.ok (.ended (.exhausted review.issues.length)),
        (world.logs (stepEvent context "revise" "started")).logs
          (stepEvent context "revise" "completed"
            (CycleOutcome.exhausted review.issues.length).describe)) := by
  have body : (if context.policy.planningIterations ≤ iteration then
        return .ended (.exhausted review.issues.length)
      else do
        revise context iteration review
        return .done () : Run (StepEnd Unit)) (world.logs (stepEvent context "revise" "started")) =
      (.ok (.ended (.exhausted review.issues.length)),
        world.logs (stepEvent context "revise" "started")) := by
    rw [if_pos spent]
    rfl
  exact runStep_of_ok body

end

/-! ### Dialogues -/

/-- One turn of a dialogue: the surroundings that the critic meets, its answer, what it leaves, what
is left once its critique is filed, and the same of the listing and the revision that may follow. -/
structure Exchange where
  before : Surroundings
  answer : AgentAnswer
  answered : Surroundings
  filed : Surroundings
  listed : Surroundings
  revision : AgentAnswer
  revised : Surroundings

/-- The review that the critic's answer holds. -/
def Exchange.review (exchange : Exchange) : Review :=
  Review.parse exchange.answer.output

/-- Whether turns are those of a round with a budget: the surroundings take their part in each of
its critiques and revisions, and each turn begins where the one before ends. -/
structure Dialogue (context : CycleContext) (conversation : String) (last : Nat)
    (turn : Nat → Exchange) : Prop where
  critiques : ∀ i, 1 ≤ i → i ≤ last →
    Critiques context i (turn i).before (turn i).answer (turn i).answered (turn i).filed
  revises : ∀ i, 1 ≤ i → i < last →
    Revises context i conversation (turn i).review (turn i).filed (turn i).listed
      (turn i).revision (turn i).revised
  follows : ∀ i, 1 ≤ i → i < last → (turn (i + 1)).before = (turn i).revised

end Cycle

end PlanCycle
