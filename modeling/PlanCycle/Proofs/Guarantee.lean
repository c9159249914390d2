/-
Module: PlanCycle.Proofs.Guarantee
Purpose: What a run guarantees of the world that it leaves, however it ends, where shown lines and
  the log have no part in it: the steps of a cycle guarantee what calls, programs, sessions and the
  file of the critiques do.
Main exports:
  Guarantee, Run.Guarantees, AgentCall.run_guarantees, Guarantee.Covers,
  Cycle.writeDocument_eq, Cycle.validateStep_guarantees, Cycle.critiqueRound_guarantees,
  Lifecycle.implement_eq, Lifecycle.implement_guarantees
-/
import PlanCycle.Proofs.AgentCall

namespace PlanCycle

variable {α β : Type}

/-! ### Guarantees -/

/-- Something that holds between a world and a later one, whatever lines and warnings are shown and
whatever is logged meanwhile. -/
structure Guarantee where
  holds : World → World → Prop
  refl : ∀ world, holds world world
  trans : ∀ {first middle last}, holds first middle → holds middle last → holds first last
  line : ∀ world text, holds world (world.shows [.line text])
  warning : ∀ world text, holds world (world.shows [.warning text])
  logs : ∀ world entry, holds world (world.logs entry)

/-- Lines that are shown have no part in a guarantee. -/
theorem Guarantee.lines (law : Guarantee) (world : World) {events : List Event}
    (lines : Cycle.AreLines events) : law.holds world (world.shows events) := by
  induction events generalizing world with
  | nil =>
      rw [World.shows_nil]
      exact law.refl world
  | cons event events ih =>
      obtain ⟨text, rfl⟩ := lines event List.mem_cons_self
      have rest : Cycle.AreLines events := fun other member =>
        lines other (List.mem_cons_of_mem _ member)
      have both : world.shows (.line text :: events) = (world.shows [.line text]).shows events := by
        rw [World.shows_shows]
        rfl
      rw [both]
      exact law.trans (law.line world text) (ih _ rest)

/-- Whether a run gives a guarantee, however it ends. -/
def Run.Guarantees (law : Guarantee) (run : Run α) : Prop :=
  ∀ ⦃world result last⦄, run world = (result, last) → law.holds world last

section
variable {law : Guarantee}

namespace Run.Guarantees

theorem pure (value : α) : Guarantees law (pure value : Run α) := by
  intro world result last ran
  cases ran
  exact law.refl world

theorem stop (reason : Stop) : Guarantees law (Run.stop reason : Run α) := by
  intro world result last ran
  cases ran
  exact law.refl world

theorem look (view : World → α) : Guarantees law (Run.look view) := by
  intro world result last ran
  cases ran
  exact law.refl world

theorem ofExcept (value : Except Stop α) : Guarantees law (Run.ofExcept value) := by
  intro world result last ran
  rw [Run.ofExcept_apply] at ran
  cases ran
  exact law.refl world

theorem ofFiles (value : Except FileFault α) : Guarantees law (Run.ofFiles value) :=
  ofExcept _

theorem bind {first : Run α} {next : α → Run β} (one : Guarantees law first)
    (two : ∀ value, Guarantees law (next value)) : Guarantees law (first >>= next) := by
  intro world result last ran
  rcases Run.bind_cases ran with ⟨reason, stopped, -⟩ | ⟨value, after, begun, ended⟩
  · exact one stopped
  · exact law.trans (one begun) (two value ended)

theorem attempt {run : Run α} (gives : Guarantees law run) : Guarantees law run.attempt := by
  intro world result last ran
  rcases Run.attempt_cases ran with ⟨_, once, _⟩ | ⟨_, once, _⟩ | ⟨_, once, _⟩
  · exact gives once
  · exact gives once
  · exact gives once

theorem say (text : String) : Guarantees law (Run.say text) := by
  intro world result last ran
  cases ran
  exact law.line world text

theorem relay (console : Console) (text : String) : Guarantees law (Run.relay console text) := by
  unfold Run.relay
  split
  · exact say text
  · exact stop _

theorem warn (text : String) : Guarantees law (Run.warn text) := by
  intro world result last ran
  cases ran
  exact law.warning world text

theorem warnAll (texts : List String) : Guarantees law (Run.warnAll texts) := by
  induction texts with
  | nil => exact pure ()
  | cons text texts ih => exact bind (warn text) fun _ => ih

/-- A session gives what any exchange of the records does. -/
theorem session (records : ∀ world store, law.holds world { world with store })
    (work : Session α) : Guarantees law (Run.session work) := by
  intro world result last ran
  rcases Run.session_cases ran with ⟨_, _, _, rfl⟩ | ⟨_, store, _, _, rfl⟩
  · exact law.refl _
  · exact records world store

end Run.Guarantees

/-! ### Calls of agents -/

open Run

namespace AgentCall

section
variable {call : AgentCall} {context : CycleContext} {accept : Folder → AgentAnswer → Bool}
variable (invoked : Guarantees law (call.invoke context.root))
variable (answered : ∀ answer accepted world,
  law.holds world (world.shows [.answered call answer accepted world.files]))
include invoked answered

theorem tryOnce_guarantees : Guarantees law (call.tryOnce context.root accept) := by
  have emitted (answer : AgentAnswer) : Guarantees law (do
      let files ← Run.look (·.files)
      Run.emit (.answered call answer (accept files answer) files)
      if accept files answer then return answer else Run.fail (.emptyAnswer call.step)) := by
    intro world result last ran
    rw [Run.bind_of_ok (Run.look_apply _ world)] at ran
    rcases Run.bind_cases ran with ⟨_, impossible, -⟩ | ⟨_, after, shown, ended⟩
    · cases impossible
    · cases shown
      refine law.trans (answered answer (accept world.files answer) world) ?_
      split at ended
      · exact Guarantees.pure answer ended
      · exact Guarantees.stop _ ended
  exact .bind invoked emitted

/-- All attempts of a call give what each of them gives. -/
theorem tries_guarantees (left : Nat) : Guarantees law (call.tries context accept left) := by
  induction left with
  | zero => exact .stop _
  | succ left ih =>
      refine .bind (.attempt (tryOnce_guarantees invoked answered)) fun outcome => ?_
      cases outcome with
      | ok answer => exact .pure _
      | error failure =>
          dsimp only
          split
          · split
            · exact .stop _
            · exact .bind (.relay _ _) fun _ => ih
          · exact .stop _

theorem run_guarantees : Guarantees law (call.run context accept) :=
  tries_guarantees invoked answered _

end

end AgentCall

/-! ### The steps of a cycle -/

namespace Cycle

theorem logStep_guarantees (context : CycleContext) (step event : String)
    (message : Option String) (details : Json) :
    Guarantees law (logStep context step event message details) := by
  intro world result last ran
  rw [logStep_apply] at ran
  cases ran
  exact law.logs world _

theorem logFailure_guarantees (context : CycleContext) (step : String) (failure : Failure) :
    Guarantees law (logFailure context step failure) := by
  refine .bind (.relay _ _) fun _ => ?_
  split
  · exact logStep_guarantees _ _ _ _ _
  · exact .stop _

/-- The frame of a step only shows and logs. -/
theorem runStep_guarantees {context : CycleContext} {name : String} {body : Run (StepEnd α)}
    (gives : Guarantees law body) : Guarantees law (runStep context name body) := by
  refine .bind (logStep_guarantees _ _ _ _ _) fun _ => .bind (.attempt gives) fun outcome => ?_
  cases outcome with
  | ok ending => exact .bind (logStep_guarantees _ _ _ _ _) fun _ => .pure _
  | error failure => exact .bind (logFailure_guarantees _ _ _) fun _ => .pure _

theorem warnOfUsage_guarantees (step : String) (answer : AgentAnswer) :
    Guarantees law (warnOfUsage step answer) := by
  unfold warnOfUsage
  split
  · exact .warnAll _
  · exact .pure _

theorem showSelfReview_guarantees (artifact : Artifact) (verdict : Verdict) :
    Guarantees law (showSelfReview artifact verdict) := by
  unfold showSelfReview
  split
  · exact .bind (.warn _) fun _ => .say _
  · exact .say _
  · exact .say _

theorem validated_guarantees (context : CycleContext) : Guarantees law (validated context) :=
  .bind (.look _) fun _ => .bind (.warnAll _) fun _ => .ofExcept _

theorem showProblems_guarantees (problems : List Problem) :
    Guarantees law (showProblems problems) := by
  induction problems with
  | nil => exact .pure _
  | cons problem problems ih => exact .bind (.say _) fun _ => ih

theorem validateStep_guarantees (context : CycleContext) :
    Guarantees law (validateStep context) := by
  refine runStep_guarantees (.bind (validated_guarantees context) fun validation => ?_)
  refine .bind (showProblems_guarantees _) fun _ => ?_
  split
  · exact .stop _
  · exact .pure _

theorem outcomeFromRecords_guarantees (context : CycleContext) (phase : Phase) :
    Guarantees law (outcomeFromRecords context phase) := by
  refine .bind (.look _) fun latest => ?_
  split
  · exact .pure _
  · refine .bind (validated_guarantees context) fun validation => ?_
    split
    · exact .pure _
    · split
      · exact .pure _
      · exact .pure _

theorem onlyValidates_guarantees (context : CycleContext) (phase : Phase) :
    Guarantees law (onlyValidates context phase) := by
  unfold onlyValidates
  split
  · exact .pure _
  · exact .bind (.look _) fun _ => .ofFiles _

/-- A critique is added to the others, or its verdict cannot be applied. -/
theorem applyCritique_guarantees
    (appends : ∀ text,
      Guarantees law (Run.changeFiles (·.append (Artifact.file .challenge) text)))
    (context : CycleContext) (iteration : Nat) (review : Review) :
    Guarantees law (applyCritique context iteration review) := by
  unfold applyCritique
  split
  · exact .stop _
  · split
    · exact .stop _
    · refine .bind (appends _) fun _ => ?_
      split
      · exact .bind (.say _) fun _ => .pure _
      · exact .bind (.say _) fun _ => .pure _
      · exact .bind (.say _) fun _ => .pure _

/-! ### How a document is written -/

/-- Writes what the generator answered, unless it wrote the document itself. -/
def fillDocument (context : CycleContext) (artifact : Artifact) (answer : AgentAnswer) :
    Run Unit := do
  if !(← documents context).has artifact then putDocument artifact answer

/-- Keeps what a document cost and in which conversation it was written. -/
def keepDocument (context : CycleContext) (artifact : Artifact) (answer : AgentAnswer) :
    Run Unit := do
  warnOfUsage ("generate:" ++ artifact.name) answer
  Run.session do
    let _ ← recordUsage context ("generate:" ++ artifact.name) answer
    let _ ← Session.load context.changeId
    keepSession context artifact answer
    keepAction context ("generated " ++ artifact.name)
  Run.say ("[green]✓ " ++ artifact.name ++ " written[/green]")

/-- The call by which a document is asked for. -/
def documentCall (context : CycleContext) (artifact : Artifact) (folder : ChangeFolder)
    (prompt : String) : AgentCall :=
  { step := "generate:" ++ artifact.name, role := .generator, prompt
    environment := environment context .generator folder }

/-- A document is asked for, written down if it was not, and its cost is kept. -/
theorem writeDocument_eq (context : CycleContext) (artifact : Artifact) :
    writeDocument context artifact = (do
      Run.say ("[cyan]Generating " ++ artifact.name ++ "...[/cyan]")
      let folder ← documents context
      let prompt ← Run.ofExcept
        ((folder.generationPrompt context.changeId context.description artifact).mapError
          promptStop)
      let answer ← (documentCall context artifact folder prompt).run context fun files answer =>
        files.isFile artifact.file || saysSomething answer
      fillDocument context artifact answer
      keepDocument context artifact answer) := by
  have filled (answer : AgentAnswer) (there : Bool) :
      (if !there then putDocument artifact answer >>= fun _ => keepDocument context artifact answer
        else keepDocument context artifact answer) =
      (if !there then putDocument artifact answer else pure ()) >>= fun _ =>
        keepDocument context artifact answer := by
    cases there with
    | false => rfl
    | true => rfl
  have goesOn {α β : Type} {first : Run α} {next other : α → Run β}
      (same : ∀ value, next value = other value) : first >>= next = first >>= other :=
    congrArg (first >>= ·) (funext same)
  unfold writeDocument
  refine goesOn fun _ => goesOn fun folder => goesOn fun prompt => goesOn fun answer => ?_
  funext world
  exact congrFun (filled answer ((context.folder world).has artifact)) world

/-- The document of an answer is written, or nothing is written in its place because it has no
encoding, or there is no writing to its file. -/
theorem putDocument_cases {artifact : Artifact} {answer : AgentAnswer} {world last : World}
    {result : Except Stop Unit} (ran : putDocument artifact answer world = (result, last)) :
    (∃ files, answer.encodes (documentOf answer.output) = true ∧
        world.files.write artifact.file (documentOf answer.output) = .ok files ∧
        result = .ok () ∧ last = { world with files }) ∨
      (∃ files, answer.encodes (documentOf answer.output) = false ∧
        world.files.write artifact.file "" = .ok files ∧
        result = .error (.breakdown .unencodable) ∧ last = { world with files }) ∨
      ∃ fault, result = .error (.ofFile fault) ∧ last = world := by
  unfold putDocument at ran
  split at ran
  · rename_i encoded
    rcases Run.changeFiles_cases ran with ⟨files, written, rfl, rfl⟩ | ⟨fault, -, rfl, rfl⟩
    · exact .inl ⟨files, encoded, written, rfl, rfl⟩
    · exact .inr (.inr ⟨fault, rfl, rfl⟩)
  · rename_i unencoded
    rcases Run.bind_cases ran with ⟨reason, stopped, rfl⟩ | ⟨_, after, written, stopped⟩
    · rcases Run.changeFiles_cases stopped with ⟨_, -, impossible, -⟩ | ⟨fault, -, same, rfl⟩
      · cases impossible
      · exact .inr (.inr ⟨fault, same, rfl⟩)
    · rcases Run.changeFiles_cases written with ⟨files, emptied, -, rfl⟩ | ⟨_, -, impossible, -⟩
      · cases stopped
        exact .inr (.inl ⟨files, by simpa using unencoded, emptied, rfl, rfl⟩)
      · cases impossible

/-- The document of an answer is put in its place by writing to its file, whatever is written. -/
theorem putDocument_guarantees {artifact : Artifact}
    (writes : ∀ text, Guarantees law (Run.changeFiles (·.write artifact.file text)))
    (answer : AgentAnswer) : Guarantees law (putDocument artifact answer) := by
  unfold putDocument
  dsimp only
  split
  · exact writes _
  · exact .bind (writes _) fun _ => .stop _

theorem keepDocument_guarantees (sessions : ∀ work : Session Unit, Guarantees law (session work))
    (context : CycleContext) (artifact : Artifact) (answer : AgentAnswer) :
    Guarantees law (keepDocument context artifact answer) :=
  .bind (warnOfUsage_guarantees _ _) fun _ => .bind (sessions _) fun _ => .say _

end Cycle

/-- Whether everything gives a guarantee by which a run does more than show and log: calls of
agents, programs, sessions, and texts that are added to the critiques. -/
structure Guarantee.Covers (law : Guarantee) : Prop where
  call : ∀ (call : AgentCall) (context : CycleContext) (accept : Folder → AgentAnswer → Bool),
    Guarantees law (call.run context accept)
  process : ∀ spawn, Guarantees law (Run.runProcess spawn)
  session : ∀ {α : Type} (work : Session α), Guarantees law (Run.session work)
  critique : ∀ text, Guarantees law (Run.changeFiles (·.append (Artifact.file .challenge) text))

namespace Lifecycle

/-- Keeps and shows how far the implementation is. -/
def finish (context : CycleContext) : Run ChangeStatus := do
  let graph ← taskGraph context
  Run.session (keepProgress context.changeId graph)
  Run.say ("[green]✓ " ++ toString graph.progress.1 ++ "/" ++ toString graph.progress.2 ++
    " tasks done[/green]")
  status context.changeId context.place

/-- The pending tasks are handed to the implementer, if there are any, and then it is looked how far
they are. -/
theorem implement_eq (context : CycleContext) (implementer : Run CycleContext) :
    implement context implementer = (do
      let change ← Run.session (Session.load context.changeId)
      if change.phase ≠ .challenged ∧ change.phase ≠ .implementing then
        Run.fail (.transition change.phase .implementing)
      else do
        let graph ← taskGraph context
        match graph.pending with
        | [] => do
          Run.say "[dim]No pending tasks[/dim]"
          finish context
        | pending => do
          Run.say ("[cyan]Implementing " ++ toString pending.length ++ " task(s)...[/cyan]")
          implementTasks (← implementer) (pending.map taskLine)
          finish context) := by
  rfl

theorem taskGraph_guarantees (context : CycleContext) : Guarantees law (taskGraph context) :=
  .bind (.look _) fun _ => .bind (.ofFiles _) fun _ => .bind (.warnAll _) fun _ => .ofExcept _

theorem status_guarantees (id : String) (place : Path) : Guarantees law (status id place) := by
  intro world result last ran
  cases ran
  exact law.refl world

end Lifecycle

section
variable (covers : law.Covers)
include covers

namespace Cycle

theorem selfReview_guarantees (context : CycleContext) (artifact : Artifact) :
    Guarantees law (selfReview context artifact) := by
  unfold selfReview
  refine .bind (.look _) fun folder => .bind (covers.call _ _ _) fun answer => ?_
  refine .bind (.warnAll _) fun _ => .bind (showSelfReview_guarantees _ _) fun _ => ?_
  exact .bind (warnOfUsage_guarantees _ _) fun _ => covers.session _

theorem critique_guarantees (context : CycleContext) (iteration : Nat) :
    Guarantees law (critique context iteration) := by
  unfold critique
  refine .bind (.look _) fun folder => .bind (.say _) fun _ => .bind (.ofFiles _) fun prompt => ?_
  refine .bind (covers.call _ _ _) fun answer => .bind (.warnAll _) fun _ => ?_
  exact .bind (warnOfUsage_guarantees _ _) fun _ => .bind (covers.session _) fun _ => .pure _

theorem challengeStep_guarantees (context : CycleContext) (iteration : Nat) :
    Guarantees law (challengeStep context iteration) :=
  runStep_guarantees (.bind (critique_guarantees covers context iteration) fun _ =>
    applyCritique_guarantees covers.critique context iteration _)

theorem reviseStep_guarantees (context : CycleContext) (iteration : Nat) (review : Review) :
    Guarantees law (reviseStep context iteration review) := by
  have indexing : Guarantees law (conversationIndex context) := by
    refine .bind (covers.session _) fun change => ?_
    split
    · exact .stop _
    · exact .bind (covers.process _) fun _ => .ofExcept _
  have revising : Guarantees law (revise context iteration review) := by
    unfold revise
    refine .bind indexing fun index => .bind (.say _) fun _ => .bind (.look _) fun folder => ?_
    split
    · exact .stop _
    · exact .bind (covers.call _ _ _) fun answer =>
        .bind (warnOfUsage_guarantees _ _) fun _ => covers.session _
  apply runStep_guarantees
  split
  · exact .pure _
  · exact .bind revising fun _ => .pure _

/-- Critiques and revisions in turn give what each of them gives. -/
theorem critiquesFrom_guarantees (context : CycleContext) (iteration left : Nat) :
    Guarantees law (critiquesFrom context iteration left) := by
  induction left generalizing iteration with
  | zero => exact .pure _
  | succ left ih =>
      refine .bind (challengeStep_guarantees covers context iteration) fun ending => ?_
      cases ending with
      | ended outcome => exact .pure _
      | done review =>
          refine .bind (reviseStep_guarantees covers context iteration review) fun ending => ?_
          cases ending with
          | ended outcome => exact .pure _
          | done _ => exact ih (iteration + 1)

theorem critiqueRound_guarantees (context : CycleContext) :
    Guarantees law (critiqueRound context) :=
  .bind (critiquesFrom_guarantees covers context _ _) fun _ => .pure _

theorem challengePlan_guarantees (context : CycleContext) :
    Guarantees law (challengePlan context) := by
  refine .bind (validateStep_guarantees context) fun ending => ?_
  cases ending with
  | ended outcome => exact .pure _
  | done _ => exact critiqueRound_guarantees covers context

theorem runChallenge_guarantees (context : CycleContext) (phase : Phase) :
    Guarantees law (runChallenge context phase) := by
  unfold runChallenge
  split
  · exact challengePlan_guarantees covers context
  · exact .pure _

end Cycle

namespace Lifecycle

/-- The implementation of tasks gives what the implementer gives. -/
theorem implement_guarantees {context : CycleContext} {implementer : Run CycleContext}
    (finding : Guarantees law implementer) : Guarantees law (implement context implementer) := by
  have asking (found : CycleContext) (pending : List String) :
      Guarantees law (implementTasks found pending) :=
    .bind (.look _) fun _ => .bind (.ofFiles _) fun _ => .bind (covers.call _ _ _) fun _ =>
      .bind (Cycle.warnOfUsage_guarantees _ _) fun _ => covers.session _
  have finishing : Guarantees law (finish context) := by
    refine .bind (taskGraph_guarantees context) fun graph => .bind (covers.session _) fun _ => ?_
    exact .bind (.say _) fun _ => status_guarantees _ _
  rw [implement_eq]
  refine .bind (covers.session _) fun change => ?_
  split
  · exact .stop _
  refine .bind (taskGraph_guarantees context) fun graph => ?_
  split
  · exact .bind (.say _) fun _ => finishing
  · refine .bind (.say _) fun _ => .bind finding fun found => ?_
    exact .bind (asking found _) fun _ => finishing

end Lifecycle

end

end

end PlanCycle
