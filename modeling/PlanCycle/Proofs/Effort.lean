/-
Module: PlanCycle.Proofs.Effort
Purpose: How much a planning run tries at most, whatever agents and programs answer: attempts at
  calls of each kind, and lists of conversations.
Main exports:
  Effort, Effort.spent, Effort.limit, Run.Spends, AgentCall.run_spends, Cycle.foundMissing,
  Cycle.critiquesFrom_spends, Project.planning_effort_is_bounded
-/
import PlanCycle.Proofs.Guarantee
import PlanCycle.Proofs.Project

namespace PlanCycle

variable {α β : Type}

/-! ### What effort is spent on -/

/-- What a run can spend effort on. -/
inductive Effort where
  /-- An attempt to have a document written, or looked at again by its author. -/
  | writing
  /-- An attempt to have the plan criticised. -/
  | critique
  /-- An attempt to have the plan revised. -/
  | revision
  /-- An attempt to have tasks implemented. -/
  | implementation
  /-- A run of the program that lists conversations. -/
  | listing
deriving Repr, Inhabited, DecidableEq

/-- What an attempt at a call is spent on. -/
def AgentCall.effort (call : AgentCall) : Effort :=
  match call.role with
  | .critic => .critique
  | .implementer => .implementation
  | .generator =>
    if "revise:".toList.isPrefixOf call.step.toList then .revision else .writing

/-- What an event spends: a question is an attempt at its call, and a program that is no agent lists
conversations. -/
def Event.effort? : Event → Option Effort
  | .asked call _ => some call.effort
  | .ran spawn _ => if spawn.environment.isNone then some .listing else none
  | _ => none

namespace Effort

/-- How often a trace spends an effort. -/
def spent (effort : Effort) (events : List Event) : Nat :=
  (events.filterMap (·.effort?)).count effort

@[simp] theorem spent_nil (effort : Effort) : effort.spent [] = 0 := rfl

@[simp] theorem spent_append (effort : Effort) (first second : List Event) :
    effort.spent (first ++ second) = effort.spent first + effort.spent second := by
  simp [spent]

theorem spent_of_none {event : Event} (effort : Effort) (free : event.effort? = none) :
    effort.spent [event] = 0 := by
  simp [spent, free]

/-- So many times one effort, and never another one. -/
def only (kind : Effort) (times : Nat) (effort : Effort) : Nat :=
  if kind = effort then times else 0

theorem spent_of_some {event : Event} {kind : Effort} (effort : Effort)
    (costs : event.effort? = some kind) : effort.spent [event] = only kind 1 effort := by
  simp [spent, costs, only, List.count_singleton]

@[simp] theorem only_zero (kind effort : Effort) : only kind 0 effort = 0 := by
  simp [only]

theorem only_add (kind : Effort) (first second : Nat) (effort : Effort) :
    only kind first effort + only kind second effort = only kind (first + second) effort := by
  unfold only
  split
  · rfl
  · rfl

/-- What a plan may cost at most: two calls for each missing document, so many critiques, and after
each of them but the last one a look for the conversation and a revision.  Each call may be
attempted so often. -/
def limit (attempts critiques missing : Nat) : Effort → Nat
  | .writing => attempts * 2 * missing
  | .critique => attempts * critiques
  | .revision => attempts * (critiques - 1)
  | .listing => critiques - 1
  | .implementation => 0

end Effort

/-! ### Runs that spend no more than a limit -/

/-- Whether an effort is spent no more often than a limit between a world and a later one. -/
def World.Spends (effort : Effort) (limit : Nat) (before after : World) : Prop :=
  ∃ added, after.events = before.events ++ added ∧ effort.spent added ≤ limit

/-- The runs that spend an effort no more often than a limit, however they end. -/
def Run.Spends (effort : Effort) (limit : Nat) (run : Run α) : Prop :=
  ∀ ⦃world result last⦄, run world = (result, last) → world.Spends effort limit last

section
variable {effort : Effort} {limit more : Nat}

namespace World.Spends

theorem mono {before after : World} (spends : before.Spends effort limit after)
    (enough : limit ≤ more) : before.Spends effort more after := by
  obtain ⟨added, events, within⟩ := spends
  exact ⟨added, events, Nat.le_trans within enough⟩

theorem trans {first middle last : World} (one : first.Spends effort limit middle)
    (two : middle.Spends effort more last) : first.Spends effort (limit + more) last := by
  obtain ⟨added, events, within⟩ := one
  obtain ⟨others, moreEvents, moreWithin⟩ := two
  refine ⟨added ++ others, by rw [moreEvents, events, List.append_assoc], ?_⟩
  rw [Effort.spent_append]
  exact Nat.add_le_add within moreWithin

/-- What is shown and is no effort is free. -/
theorem shows {event : Event} (free : event.effort? = none) (world : World) :
    world.Spends effort 0 (world.shows [event]) :=
  ⟨[event], rfl, Nat.le_of_eq (Effort.spent_of_none effort free)⟩

end World.Spends

/-- To spend nothing is a guarantee. -/
def Guarantee.idle (effort : Effort) : Guarantee where
  holds := World.Spends effort 0
  refl world := ⟨[], by simp, Nat.le_refl 0⟩
  trans one two := one.trans two
  line world _ := .shows rfl world
  warning world _ := .shows rfl world
  logs world _ := ⟨[], by simp, Nat.le_refl 0⟩

open Run Guarantee

namespace Run.Spends

theorem mono {run : Run α} (spends : Spends effort limit run) (enough : limit ≤ more) :
    Spends effort more run :=
  fun _ _ _ ran => (spends ran).mono enough

theorem of_idle {run : Run α} (free : Guarantees (idle effort) run) : Spends effort limit run :=
  fun _ _ _ ran => (free ran).mono (Nat.zero_le limit)

theorem bind {first : Run α} {next : α → Run β} (one : Spends effort limit first)
    (two : ∀ value, Spends effort more (next value)) :
    Spends effort (limit + more) (first >>= next) := by
  intro world result last ran
  rcases Run.bind_cases ran with ⟨reason, stopped, -⟩ | ⟨value, after, begun, ended⟩
  · exact (one stopped).mono (Nat.le_add_right limit more)
  · exact (one begun).trans (two value ended)

/-- What goes on after something free may spend all. -/
theorem after_idle {first : Run α} {next : α → Run β} (free : Guarantees (idle effort) first)
    (two : ∀ value, Spends effort limit (next value)) : Spends effort limit (first >>= next) :=
  (bind (of_idle free) two).mono (Nat.le_of_eq (Nat.zero_add limit))

/-- What goes on for free leaves all to the first run. -/
theorem then_idle {first : Run α} {next : α → Run β} (one : Spends effort limit first)
    (free : ∀ value, Guarantees (idle effort) (next value)) :
    Spends effort limit (first >>= next) := by
  have nothing (value : α) : Spends effort 0 (next value) := of_idle (free value)
  exact bind one nothing

theorem attempt {run : Run α} (spends : Spends effort limit run) :
    Spends effort limit run.attempt := by
  intro world result last ran
  rcases Run.attempt_cases ran with ⟨_, once, _⟩ | ⟨_, once, _⟩ | ⟨_, once, _⟩
  · exact spends once
  · exact spends once
  · exact spends once

theorem session (work : Session α) : Guarantees (idle effort) (Run.session work) := by
  have records (world : World) (store : Store) : (idle effort).holds world { world with store } :=
    ⟨[], by simp, Nat.le_refl 0⟩
  exact .session records work

theorem changeFiles (change : Folder → Except FileFault Folder) :
    Guarantees (idle effort) (Run.changeFiles change) := by
  intro world result last ran
  unfold Run.changeFiles at ran
  split at ran
  · cases ran
    exact ⟨[], by simp, Nat.le_refl 0⟩
  · cases ran
    exact (idle effort).refl _

/-- A program spends what its run is an effort for. -/
theorem runProcess {spawn : ProcessResult → Spawn}
    (costs : ∀ ending, effort.spent [.ran (spawn ending) ending] ≤ limit) :
    Spends effort limit (Run.runProcess spawn) := by
  intro world result last ran
  obtain ⟨ending, -, -, -, events⟩ := Run.runProcess_cases ran
  exact ⟨_, events, costs ending⟩

end Run.Spends

open Effort

/-! ### Calls of agents -/

namespace AgentCall

theorem askReady_idle (call : AgentCall) (first : Reply) (others : List Reply) :
    Guarantees (idle effort) (call.askReady first others) := by
  intro world result last ran
  rw [askReady_apply] at ran
  obtain ⟨-, rfl⟩ := Prod.mk.inj ran
  exact ⟨[], by simp, Nat.le_refl 0⟩

theorem askProgram_idle (call : AgentCall) (root : Path) (setup : AgentSetup) :
    Guarantees (idle effort) (call.askProgram root setup) := by
  refine .bind (.ofExcept _) fun words => .bind ?_ fun result => .ofExcept _
  exact Run.Spends.runProcess fun ending => Nat.le_of_eq (spent_of_none effort rfl)

section
variable (call : AgentCall)

/-- To ask once is one attempt. -/
theorem invoke_spends (root : Path) :
    Run.Spends effort (only call.effort 1 effort) (call.invoke root) := by
  unfold invoke
  refine .after_idle (.look _) fun files => .then_idle ?_ fun _ => .bind (.look _) fun agent => ?_
  · intro world result last ran
    cases ran
    exact ⟨[.asked call files], rfl, Nat.le_of_eq (spent_of_some effort rfl)⟩
  · cases agent with
    | ready first others => exact call.askReady_idle first others
    | program setup => exact call.askProgram_idle root setup

theorem tryOnce_spends (root : Path) (accept : Folder → AgentAnswer → Bool) :
    Run.Spends effort (only call.effort 1 effort) (call.tryOnce root accept) := by
  refine .then_idle (call.invoke_spends root) fun answer => .bind (.look _) fun files => ?_
  refine .bind ?_ fun _ => ?_
  · intro world result last ran
    cases ran
    exact .shows rfl world
  · split
    · exact .pure _
    · exact .stop _

/-- Each attempt uses up one of those that are left. -/
theorem tries_spends (context : CycleContext) (accept : Folder → AgentAnswer → Bool) (left : Nat) :
    Run.Spends effort (only call.effort left effort) (call.tries context accept left) := by
  induction left with
  | zero => exact .of_idle (.stop _)
  | succ left ih =>
      have one_more : only call.effort (left + 1) effort =
          only call.effort 1 effort + only call.effort left effort := by
        rw [only_add, Nat.add_comm]
      rw [one_more]
      refine .bind (.attempt (call.tryOnce_spends context.root accept)) fun outcome => ?_
      cases outcome with
      | ok answer => exact .of_idle (.pure _)
      | error failure =>
          dsimp only
          split
          · split
            · exact .of_idle (.stop _)
            · exact .after_idle (.relay _ _) fun _ => ih
          · exact .of_idle (.stop _)

end

/-- A call makes as many attempts as the policy allows. -/
theorem run_spends {call : AgentCall} {kind : Effort} (spent_on : call.effort = kind)
    (context : CycleContext) (accept : Folder → AgentAnswer → Bool) :
    Run.Spends effort (only kind context.policy.attempts effort) (call.run context accept) := by
  rw [← spent_on]
  exact call.tries_spends context accept _

end AgentCall

/-! ### The steps of a cycle -/

namespace Cycle

/-- The frame of a step spends nothing. -/
theorem runStep_spends {context : CycleContext} {name : String} {body : Run (StepEnd α)}
    (spends : Run.Spends effort limit body) :
    Run.Spends effort limit (runStep context name body) := by
  refine .after_idle (logStep_guarantees _ _ _ _ _) fun _ => ?_
  refine .then_idle (.attempt spends) fun outcome => ?_
  cases outcome with
  | ok ending => exact .bind (logStep_guarantees _ _ _ _ _) fun _ => .pure _
  | error failure => exact .bind (logFailure_guarantees _ _ _) fun _ => .pure _

section
variable (context : CycleContext)

theorem fillDocument_idle (artifact : Artifact) (answer : AgentAnswer) :
    Guarantees (idle effort) (fillDocument context artifact answer) := by
  refine .bind (.look _) fun folder => ?_
  split
  · exact putDocument_guarantees (fun _ => Run.Spends.changeFiles _) answer
  · exact .pure _

theorem writeDocument_spends (artifact : Artifact) :
    Run.Spends effort (only .writing context.policy.attempts effort)
      (writeDocument context artifact) := by
  have writing (folder : ChangeFolder) (prompt : String) :
      (documentCall context artifact folder prompt).effort = .writing := by
    simp [documentCall, AgentCall.effort, String.toList_append]
  rw [writeDocument_eq]
  refine .after_idle (.say _) fun _ => .after_idle (.look _) fun folder => ?_
  refine .after_idle (.ofExcept _) fun prompt => ?_
  refine .then_idle (AgentCall.run_spends (writing folder prompt) context _) fun answer => ?_
  exact .bind (fillDocument_idle context artifact answer) fun _ =>
    keepDocument_guarantees Run.Spends.session context artifact answer

theorem selfReview_spends (artifact : Artifact) :
    Run.Spends effort (only .writing context.policy.attempts effort)
      (selfReview context artifact) := by
  refine .after_idle (.look _) fun folder => ?_
  refine .then_idle (AgentCall.run_spends ?_ context _) fun answer => ?_
  · simp [AgentCall.effort, String.toList_append]
  · refine .bind (.warnAll _) fun _ => .bind (showSelfReview_guarantees _ _) fun _ => ?_
    exact .bind (warnOfUsage_guarantees _ _) fun _ => Run.Spends.session _

/-- A document is written with two calls at most. -/
theorem generate_spends (artifact : Artifact) :
    Run.Spends effort (only .writing (context.policy.attempts * 2) effort)
      (generate context artifact) := by
  rw [Nat.mul_two, ← only_add]
  refine .bind (writeDocument_spends context artifact) fun _ => ?_
  split
  · exact selfReview_spends context artifact
  · exact .of_idle (.pure _)

end

/-! ### Missing documents -/

/-- Those of some documents that are missing when their turn comes, if they are written in turn. -/
def missingAmong (context : CycleContext) : List Artifact → World → List Artifact
  | [], _ => []
  | artifact :: artifacts, world =>
    let later := match generateMissing context artifact world with
      | (.ok (), after) => missingAmong context artifacts after
      | (.error _, _) => []
    if (context.folder world).has artifact then later else artifact :: later

/-- The documents that are missing when their turn comes in the step that has them written. -/
def foundMissing (context : CycleContext) (world : World) : List Artifact :=
  let begun := world.logs (stepEvent context "generate" "started")
  let others := match generateMissing context .proposal begun with
    | (.ok (), after) =>
      match (context.folder after).required with
      | .ok required => missingAmong context (required.drop 1) after
      | .error _ => []
    | (.error _, _) => []
  missingAmong context [.proposal] begun ++ others

section
variable {context : CycleContext} {world last : World}

/-- A document that is there costs nothing. -/
theorem generateMissing_spends {artifact : Artifact} {result : Except Stop Unit}
    (ran : generateMissing context artifact world = (result, last)) :
    world.Spends effort (only .writing
      (context.policy.attempts * 2 * (missingAmong context [artifact] world).length) effort)
        last := by
  have count : (missingAmong context [artifact] world).length =
      if (context.folder world).has artifact then 0 else 1 := by
    unfold missingAmong
    have none_later : (match generateMissing context artifact world with
        | (.ok (), after) => missingAmong context [] after
        | (.error _, _) => []) = [] := by
      split
      · rfl
      · rfl
    rw [none_later]
    split
    · rfl
    · rfl
  rw [count]
  unfold generateMissing at ran
  rw [documents, Run.bind_of_ok (Run.look_apply _ world)] at ran
  split at ran
  · rename_i there
    rw [if_pos there, Nat.mul_zero, only_zero]
    have showing (text : String) : Guarantees (idle effort) (Run.say text) := .say text
    exact showing _ ran
  · rename_i missing
    rw [if_neg missing, Nat.mul_one]
    exact generate_spends context artifact ran

/-- The first of the missing documents are those of the first document. -/
theorem missingAmong_cons_of_ok {artifact : Artifact} (artifacts : List Artifact) {after : World}
    (went : generateMissing context artifact world = (.ok (), after)) :
    missingAmong context (artifact :: artifacts) world =
      missingAmong context [artifact] world ++ missingAmong context artifacts after := by
  rw [missingAmong, missingAmong, went]
  dsimp only
  split
  · rfl
  · rfl

theorem missingAmong_cons_of_error {artifact : Artifact} (artifacts : List Artifact)
    {after : World} {reason : Stop}
    (stopped : generateMissing context artifact world = (.error reason, after)) :
    missingAmong context (artifact :: artifacts) world = missingAmong context [artifact] world := by
  rw [missingAmong, missingAmong, stopped]

/-- Documents that are written in turn cost what those of them cost that are missing. -/
theorem generateAll_spends {artifacts : List Artifact} {result : Except Stop Unit}
    (ran : generateAll context artifacts world = (result, last)) :
    world.Spends effort (only .writing
      (context.policy.attempts * 2 * (missingAmong context artifacts world).length) effort)
        last := by
  induction artifacts generalizing world with
  | nil =>
      cases ran
      exact ((idle effort).refl _).mono (Nat.zero_le _)
  | cons artifact artifacts ih =>
      rcases Run.bind_cases ran with ⟨reason, stopped, -⟩ | ⟨⟨⟩, after, went, rest⟩
      · rw [missingAmong_cons_of_error artifacts stopped]
        exact generateMissing_spends stopped
      · rw [missingAmong_cons_of_ok artifacts went, List.length_append, Nat.mul_add, ← only_add]
        exact (generateMissing_spends went).trans (ih rest)

/-- To have the missing documents written costs what they cost. -/
theorem generateStep_spends {result : Except Stop (StepEnd Unit)}
    (ran : generateStep context world = (result, last)) :
    world.Spends effort (only .writing
      (context.policy.attempts * 2 * (foundMissing context world).length) effort) last := by
  have body {result : Except Stop (StepEnd Unit)} {last : World}
      (ran : (do
        generateMissing context .proposal
        let required ← Run.ofFiles (← documents context).required
        generateAll context (required.drop 1)
        return StepEnd.done ()) (world.logs (stepEvent context "generate" "started")) =
          (result, last)) :
      world.Spends effort (only .writing
        (context.policy.attempts * 2 * (foundMissing context world).length) effort) last := by
    unfold foundMissing
    dsimp only
    rw [List.length_append, Nat.mul_add, ← only_add]
    have begun : world.Spends effort 0 (world.logs (stepEvent context "generate" "started")) :=
      (idle effort).logs world _
    rcases Run.bind_cases ran with ⟨reason, stopped, -⟩ | ⟨⟨⟩, after, went, ran⟩
    · exact (begun.trans (generateMissing_spends stopped)).mono (by omega)
    rw [documents, Run.bind_of_ok (Run.look_apply _ after)] at ran
    have proposed := begun.trans (generateMissing_spends went)
    rw [went]
    dsimp only
    rcases Run.bind_cases ran with ⟨reason, stopped, -⟩ | ⟨required, _, read, writing⟩
    · rw [Run.ofFiles_apply] at stopped
      obtain ⟨-, rfl⟩ := Prod.mk.inj stopped
      exact proposed.mono (by omega)
    · obtain ⟨known, rfl⟩ := Run.ofFiles_ok_iff.1 read
      rw [known]
      dsimp only
      rcases Run.bind_cases writing with ⟨reason, stopped, -⟩ | ⟨⟨⟩, _, wrote, ended⟩
      · exact (proposed.trans (generateAll_spends stopped)).mono (by omega)
      · cases ended
        exact (proposed.trans (generateAll_spends wrote)).mono (by omega)
  rcases runStep_cases ran with ⟨ending, after, made, -, rfl⟩ |
    ⟨failure, after, made, -, -, rfl⟩ | ⟨breakdown, reason, after, shown, made, -, rfl, lines⟩
  · exact (body made).trans ((idle effort).logs after _)
  · have failed : after.Spends effort 0 (afterFailure context "generate" failure after) :=
      (World.Spends.shows rfl after).trans ((idle effort).logs _ _)
    exact (body made).trans failed
  · exact (body made).trans ((idle effort).lines after lines)

end

/-! ### Critiques and revisions -/

section
variable (context : CycleContext)

theorem challengeStep_spends (iteration : Nat) :
    Run.Spends effort (only .critique context.policy.attempts effort)
      (challengeStep context iteration) := by
  refine runStep_spends (.then_idle ?_ fun review =>
    applyCritique_guarantees (fun _ => Run.Spends.changeFiles _) context iteration review)
  refine .after_idle (.look _) fun folder => .after_idle (.say _) fun _ => ?_
  refine .after_idle (.ofFiles _) fun prompt => ?_
  refine .then_idle (AgentCall.run_spends rfl context _) fun answer => ?_
  refine .bind (.warnAll _) fun _ => .bind (warnOfUsage_guarantees _ _) fun _ => ?_
  exact .bind (Run.Spends.session _) fun _ => .pure _

theorem conversationIndex_spends :
    Run.Spends effort (only .listing 1 effort) (conversationIndex context) := by
  refine .after_idle (Run.Spends.session _) fun change => ?_
  split
  · exact .of_idle (.stop _)
  · refine .then_idle (.runProcess fun ending => ?_) fun _ => .ofExcept _
    exact Nat.le_of_eq (spent_of_some effort rfl)

theorem revise_spends (iteration : Nat) (review : Review) :
    Run.Spends effort (only .listing 1 effort + only .revision context.policy.attempts effort)
      (revise context iteration review) := by
  refine .bind (conversationIndex_spends context) fun index => .after_idle (.say _) fun _ => ?_
  refine .after_idle (.look _) fun folder => ?_
  split
  · exact .of_idle (.stop _)
  · refine .then_idle (AgentCall.run_spends ?_ context _) fun answer => ?_
    · simp [AgentCall.effort, String.toList_append]
    · exact .bind (warnOfUsage_guarantees _ _) fun _ => Run.Spends.session _

/-- A revision after which no critique is allowed spends nothing. -/
theorem reviseStep_spends (iteration : Nat) (review : Review) :
    Run.Spends effort
      (if context.policy.planningIterations ≤ iteration then 0
        else only .listing 1 effort + only .revision context.policy.attempts effort)
      (reviseStep context iteration review) := by
  refine runStep_spends ?_
  split
  · exact .of_idle (.pure _)
  · exact .then_idle (revise_spends context iteration review) fun _ => .pure _

/-- One more critique costs its own attempts and, if it is not the only one, those of a revision. -/
theorem limit_succ (attempts left : Nat) (effort : Effort) :
    effort.limit attempts (left + 1) 0 =
      only .critique attempts effort +
        ((if left = 0 then 0 else only .listing 1 effort + only .revision attempts effort) +
          effort.limit attempts left 0) := by
  cases left with
  | zero => cases effort <;> simp [Effort.limit, only]
  | succ left => cases effort <;> simp [Effort.limit, only, Nat.mul_succ] <;> omega

/-- Critiques and revisions in turn stay within what is left, if no critique is allowed after
these. -/
theorem critiquesFrom_spends {iteration left : Nat}
    (last : context.policy.planningIterations < iteration + left) :
    Run.Spends effort (effort.limit context.policy.attempts left 0)
      (critiquesFrom context iteration left) := by
  induction left generalizing iteration with
  | zero => exact .of_idle (.pure _)
  | succ left ih =>
      rw [limit_succ]
      refine .bind (challengeStep_spends context iteration) fun ending => ?_
      cases ending with
      | ended outcome => exact .of_idle (.pure _)
      | done review =>
          have revising : Run.Spends effort
              (if left = 0 then 0
                else only .listing 1 effort + only .revision context.policy.attempts effort)
              (reviseStep context iteration review) := by
            refine (reviseStep_spends context iteration review).mono ?_
            split
            · exact Nat.zero_le _
            · exact Nat.le_of_eq (if_neg (by omega : ¬left = 0)).symm
          refine .bind revising fun ending => ?_
          cases ending with
          | ended outcome => exact .of_idle (.pure _)
          | done _ => exact ih (by omega)

theorem challengePlan_spends :
    Run.Spends effort
      (effort.limit context.policy.attempts context.policy.planningIterations.toNat 0)
      (challengePlan context) := by
  refine .after_idle (validateStep_guarantees context) fun ending => ?_
  cases ending with
  | ended outcome => exact .of_idle (.pure _)
  | done _ => exact .then_idle (critiquesFrom_spends context (by omega)) fun _ => .pure _

theorem runChallenge_spends (phase : Phase) :
    Run.Spends effort
      (effort.limit context.policy.attempts context.policy.planningIterations.toNat 0)
      (runChallenge context phase) := by
  unfold runChallenge
  split
  · exact challengePlan_spends context
  · exact .of_idle (.pure _)

end

/-- The documents that a cycle on a change in a phase finds missing. -/
def missingIn (context : CycleContext) (phase : Phase) (world : World) : List Artifact :=
  match onlyValidates context phase world with
  | (.ok true, _) => []
  | (.ok false, after) => foundMissing context after
  | (.error _, _) => []

/-- What is missing is spent on writing it. -/
theorem limit_add (attempts critiques missing : Nat) (effort : Effort) :
    effort.limit attempts critiques missing =
      only .writing (attempts * 2 * missing) effort + effort.limit attempts critiques 0 := by
  cases effort <;> simp [Effort.limit, only]

theorem runCycle_spends {context : CycleContext} {phase : Phase} {world last : World}
    {result : Except Stop CycleOutcome} (ran : runCycle context phase world = (result, last)) :
    world.Spends effort (effort.limit context.policy.attempts
      context.policy.planningIterations.toNat (missingIn context phase world).length) last := by
  have looking : Guarantees (idle effort) (onlyValidates context phase) :=
    onlyValidates_guarantees context phase
  unfold missingIn
  rcases Run.bind_cases ran with ⟨_, stopped, -⟩ | ⟨validates, after, looked, ran⟩
  · exact (looking stopped).mono (Nat.zero_le _)
  cases validates with
  | true =>
      have showing : Guarantees (idle effort) (do
          Run.say "[dim]All artifacts present; validating only[/dim]"
          outcomeFromRecords context phase) :=
        .bind (.say _) fun _ => outcomeFromRecords_guarantees context phase
      exact ((looking looked).trans (showing ran)).mono (Nat.zero_le _)
  | false =>
      rw [looked]
      dsimp only
      rw [limit_add]
      refine ((looking looked).trans ?_).mono (Nat.le_of_eq (Nat.zero_add _))
      rcases Run.bind_cases ran with ⟨_, stopped, -⟩ | ⟨ending, written, wrote, ran⟩
      · exact (generateStep_spends stopped).mono (Nat.le_add_right _ _)
      · refine (generateStep_spends wrote).trans ?_
        cases ending with
        | ended outcome =>
            cases ran
            exact ((idle effort).refl _).mono (Nat.zero_le _)
        | done _ => exact challengePlan_spends context ran

end Cycle

/-! ### Planning runs -/

namespace Project

/-- The documents that a cycle on a change finds missing when their turn comes. -/
def foundMissing (project : Project) (root : Path) (id : String) (means : Means) : List Artifact :=
  match project.records root id with
  | none => []
  | some store =>
    match project.prepare root id means (project.start root id means store) with
    | (.ok (context, phase), ready) => Cycle.missingIn context phase ready
    | (.error _, _) => []

theorem prepare_idle (project : Project) (root : Path) (id : String) (means : Means) :
    Guarantees (idle effort) (project.prepare root id means) := by
  rw [prepare_eq]
  refine .bind (Run.Spends.session _) fun change => .bind (.ofExcept _) fun cast => ?_
  refine .bind ?_ fun lister => .bind ?_ fun _ => ?_
  · unfold Project.lister
    split
    · exact .pure _
    · exact .stop _
  · intro world result last ran
    cases ran
    exact ⟨[], by simp, Nat.le_refl 0⟩
  · split
    · exact .stop _
    · exact .pure _

/-- A run on a change spends what its body spends once the cycle is ready. -/
theorem onceReady_spends {project : Project} {root : Path} {id : String} {means : Means}
    {body : CycleContext → Phase → Run α}
    (spends : ∀ {store context phase ready result last}, project.records root id = some store →
      project.prepare root id means (project.start root id means store) =
        (.ok (context, phase), ready) →
      body context phase ready = (result, last) → ready.Spends effort limit last) :
    effort.spent (project.within root id means fun _ =>
      project.onceReady root id means body).events ≤ limit := by
  cases recorded : project.records root id with
  | none =>
      rw [within_of_unrecorded recorded]
      exact Nat.zero_le _
  | some store =>
      rcases ran : project.onceReady root id means body (project.start root id means store) with
        ⟨result, last⟩
      have spent : (project.start root id means store).Spends effort limit last := by
        rcases Run.bind_cases ran with ⟨_, stopped, -⟩ | ⟨⟨context, phase⟩, ready, prepared, went⟩
        · exact (prepare_idle project root id means stopped).mono (Nat.zero_le _)
        · exact ((prepare_idle project root id means prepared).trans
            (spends recorded prepared went)).mono (Nat.le_of_eq (Nat.zero_add _))
      obtain ⟨added, events, within⟩ := spent
      have whole : (project.within root id means fun _ =>
          project.onceReady root id means body) = _ := within_of_recorded recorded ran
      rw [whole, show last.events = added from events]
      exact within

/-- **Planning costs are bounded.**  Whatever agents and programs answer, a cycle attempts no call
more often than the policy allows: two calls for each document that it finds missing, one for each
critique of the budget, and one for each critique but the last to have the plan revised, for which
it lists conversations once.  A round of critiques has no documents written. -/
theorem planning_effort_is_bounded (project : Project) (root : Path) (id : String)
    (means : Means) (effort : Effort) :
    let policy := means.policy.getD (.ofSettings project.settings)
    let attempts := (policy.maxRetries + 1).toNat
    let critiques := policy.planningIterations.toNat
    let missing := (project.foundMissing root id means).length
    effort.spent (project.cycle root id means).events ≤
        effort.limit attempts critiques missing ∧
      effort.spent (project.challenge root id means).events ≤
        effort.limit attempts critiques 0 := by
  have policy_eq {store : Store} {context : CycleContext} {phase : Phase} {ready : World}
      (prepared : project.prepare root id means (project.start root id means store) =
        (.ok (context, phase), ready)) :
      context.policy = means.policy.getD (.ofSettings project.settings) := by
    obtain ⟨_, _, _, -, -, -, -, rfl, -, -⟩ := prepare_ok_iff.1 prepared
    rfl
  refine ⟨onceReady_spends fun recorded prepared went => ?_,
    onceReady_spends fun recorded prepared went => ?_⟩
  · rw [foundMissing, recorded]
    dsimp only
    rw [prepared, ← policy_eq prepared]
    exact Cycle.runCycle_spends went
  · rw [← policy_eq prepared]
    exact Cycle.runChallenge_spends _ _ went

end Project

end

end PlanCycle
