/-
Module: PlanCycle.Proofs.StepLog
Purpose: The execution log of a planning run: each step leaves a row for its start and one for its
  end, and the last row tells the outcome.
Main exports:
  LogEntry.InPairs, Cycle.Tells, Cycle.Frames.told, Cycle.critiquesFrom_told, Project.log,
  Project.log_follows_steps
-/
import PlanCycle.Proofs.Conduct

namespace PlanCycle

variable {α : Type}

/-! ### Rows of the log -/

namespace LogEntry

/-- Rows that steps of a change leave, one after the other: of each step that it started, and then
that it was completed or that it failed. -/
inductive InPairs (id : String) : List LogEntry → Prop
  | nil : InPairs id []
  | step {started ended : LogEntry} {rows : List LogEntry}
      (about : started.changeId = id ∧ ended.changeId = id) (starts : started.event = "started")
      (ends : ended.event = "completed" ∨ ended.event = "failed")
      (same : ended.step = started.step) (later : InPairs id rows) :
      InPairs id (started :: ended :: rows)

theorem InPairs.append {id : String} {rows more : List LogEntry} (first : InPairs id rows)
    (second : InPairs id more) : InPairs id (rows ++ more) := by
  induction first with
  | nil => exact second
  | step about starts ends same _ ih => exact .step about starts ends same ih

/-- Whether a row is about a failure. -/
def IsFailure (row : LogEntry) : Prop :=
  row.event = "failed"

end LogEntry

/-- The outcome with which a step ends its cycle. -/
def StepEnd.outcome? : StepEnd α → Option CycleOutcome
  | .done _ => none
  | .ended outcome => some outcome

namespace CycleOutcome

/-- Whether an outcome is an error. -/
def IsError (outcome : CycleOutcome) : Prop :=
  ∃ kind step message, outcome = .error kind step message

/-- The outcome of a step that failed has the kind and the wording of its failure. -/
theorem ofFailure_eq (step : String) (failure : Failure) :
    ∃ call, ofFailure step failure = .error failure.kind call failure.message := by
  unfold ofFailure
  split
  · exact ⟨_, rfl⟩
  · exact ⟨_, rfl⟩

end CycleOutcome

namespace Cycle

/-- What steps have left in the log, and the outcome with which they have ended, if they have. -/
inductive Tells (context : CycleContext) : List LogEntry → Option CycleOutcome → Prop
  | nothing : Tells context [] none
  | completed {rows : List LogEntry} (earlier : Tells context rows none) (name : String) :
      Tells context
        (rows ++ [stepEvent context name "started", stepEvent context name "completed"]) none
  | ended {rows : List LogEntry} {outcome : CycleOutcome} (earlier : Tells context rows none)
      (judged : ¬outcome.IsError) (name : String) :
      Tells context
        (rows ++ [stepEvent context name "started",
          stepEvent context name "completed" outcome.describe]) (some outcome)
  | failed {rows : List LogEntry} (earlier : Tells context rows none) (name : String)
      (failure : Failure) :
      Tells context
        (rows ++ [stepEvent context name "started", failureEvent context name failure])
        (some (.ofFailure name failure))

section
variable {context : CycleContext} {rows : List LogEntry} {outcome : CycleOutcome}

theorem Tells.inPairs {told : Option CycleOutcome} (tells : Tells context rows told) :
    LogEntry.InPairs context.changeId rows := by
  induction tells with
  | nothing => exact .nil
  | completed _ name ih => exact ih.append (.step ⟨rfl, rfl⟩ rfl (.inl rfl) rfl .nil)
  | ended _ _ name ih => exact ih.append (.step ⟨rfl, rfl⟩ rfl (.inl rfl) rfl .nil)
  | failed _ name failure ih => exact ih.append (.step ⟨rfl, rfl⟩ rfl (.inr rfl) rfl .nil)

/-- As long as the steps go on none of them has failed. -/
theorem Tells.unfailed (tells : Tells context rows none) : ∀ row ∈ rows, ¬row.IsFailure := by
  generalize open_end : (none : Option CycleOutcome) = told at tells
  induction tells with
  | nothing => simp
  | completed _ name ih =>
      intro row member
      simp only [List.mem_append, List.mem_cons, List.not_mem_nil, or_false] at member
      rcases member with old | rfl | rfl
      · exact ih rfl row old
      · exact (by decide : ("started" : String) ≠ "failed")
      · exact (by decide : ("completed" : String) ≠ "failed")
  | ended => cases open_end
  | failed => cases open_end

/-- An outcome is told by the last row, and only the row of an error is about a failure. -/
theorem Tells.last (tells : Tells context rows (some outcome)) :
    ∃ earlier row, rows = earlier ++ [row] ∧ (∀ other ∈ earlier, ¬other.IsFailure) ∧
      (¬outcome.IsError ∧ row.event = "completed" ∧ row.message = some outcome.describe ∨
        ∃ kind step message, outcome = .error kind step message ∧ row.IsFailure ∧
          row.message = some message ∧ row.details = .object [("kind", .string kind.word)]) := by
  have started (name : String) : ¬(stepEvent context name "started").IsFailure :=
    (by decide : ("started" : String) ≠ "failed")
  have before {rows : List LogEntry} (earlier : Tells context rows none) (name : String) :
      ∀ other ∈ rows ++ [stepEvent context name "started"], ¬other.IsFailure := by
    intro other member
    rcases List.mem_append.mp member with old | new
    · exact earlier.unfailed other old
    · rw [List.mem_singleton.mp new]
      exact started name
  cases tells with
  | @ended rows _ earlier judged name =>
      refine ⟨rows ++ [stepEvent context name "started"],
        stepEvent context name "completed" outcome.describe, ?_, before earlier name,
        .inl ⟨judged, rfl, rfl⟩⟩
      rw [List.append_assoc]
      rfl
  | @failed rows earlier name failure =>
      obtain ⟨call, same⟩ := CycleOutcome.ofFailure_eq name failure
      refine ⟨rows ++ [stepEvent context name "started"], failureEvent context name failure, ?_,
        before earlier name, .inr ⟨failure.kind, call, failure.message, same, rfl, rfl, rfl⟩⟩
      rw [List.append_assoc]
      rfl

end

/-! ### Steps and their rows -/

/-- Whether a run that ends in a world has added the rows that tell how its steps ended. -/
def Told (context : CycleContext) (rows : List LogEntry) (before after : World)
    (told : Option CycleOutcome) : Prop :=
  ∃ more, after.store.log = before.store.log ++ more ∧ Tells context (rows ++ more) told

section
variable {context : CycleContext} {rows : List LogEntry} {world last : World}

theorem Told.trans {middle : World} {told : Option CycleOutcome}
    (one : Told context rows world middle none)
    (two : ∀ {rows}, Tells context rows none → Told context rows middle last told) :
    Told context rows world last told := by
  obtain ⟨more, log, tells⟩ := one
  obtain ⟨later, laterLog, laterTells⟩ := two tells
  refine ⟨more ++ later, by rw [laterLog, log, List.append_assoc], ?_⟩
  rwa [← List.append_assoc]

/-- A step tells how it ends. -/
theorem Frames.told {id name : String} {may : World → List Event → AgentCall → Prop}
    {step : Run (StepEnd α)} {ending : StepEnd α}
    (frames : Frames context name (fun world => world.Works id (may world)) step)
    (ran : step world = (.ok ending, last)) (earlier : Tells context rows none) :
    Told context rows world last ending.outcome? := by
  obtain ⟨body, rfl, works, judged⟩ := frames
  rcases runStep_cases ran with ⟨_, after, begun, same, rfl⟩ |
    ⟨failure, after, begun, -, same, rfl⟩ | ⟨_, _, _, _, _, impossible, -⟩
  · cases same
    refine ⟨[stepEvent context name "started", stepEvent context name "completed" ending.note?],
      ?_, ?_⟩
    · change after.store.log ++ [stepEvent context name "completed" ending.note?] = _
      rw [(works begun).log]
      exact List.append_assoc _ _ _
    · cases ending with
      | done value => exact .completed earlier name
      | ended outcome =>
          refine .ended earlier ?_ name
          rintro ⟨kind, step, message, rfl⟩
          exact judged begun kind step message rfl
  · cases same
    refine ⟨[stepEvent context name "started", failureEvent context name failure], ?_,
      .failed earlier name failure⟩
    change after.store.log ++ [failureEvent context name failure] = _
    rw [(works begun).log]
    exact List.append_assoc _ _ _
  · cases impossible

theorem generateStep_told {ending : StepEnd Unit}
    (ran : generateStep context world = (.ok ending, last)) (earlier : Tells context rows none) :
    Told context rows world last ending.outcome? := by
  have frames : Frames context "generate"
      (fun world => world.Works context.changeId fun _ _ => True) (generateStep context) :=
    generateStep_frames (fun _ _ _ => trivial) context
  exact frames.told ran earlier

theorem validateStep_told {ending : StepEnd Unit}
    (ran : validateStep context world = (.ok ending, last)) (earlier : Tells context rows none) :
    Told context rows world last ending.outcome? := by
  have frames : Frames context "validate"
      (fun world => world.Works context.changeId fun _ _ => True) (validateStep context) :=
    validateStep_frames context
  exact frames.told ran earlier

theorem challengeStep_told {iteration : Nat} {ending : StepEnd Review}
    (ran : challengeStep context iteration world = (.ok ending, last))
    (earlier : Tells context rows none) : Told context rows world last ending.outcome? := by
  have frames : Frames context "challenge"
      (fun world => world.Works context.changeId fun _ _ => True)
      (challengeStep context iteration) := challengeStep_frames (fun _ _ _ => trivial) context _
  exact frames.told ran earlier

theorem reviseStep_told {iteration : Nat} {review : Review} {ending : StepEnd Unit}
    (ran : reviseStep context iteration review world = (.ok ending, last))
    (earlier : Tells context rows none) : Told context rows world last ending.outcome? := by
  have frames : Frames context "revise"
      (fun world => world.Works context.changeId (TakesUp context iteration world))
      (reviseStep context iteration review) := reviseStep_frames context iteration review
  exact frames.told ran earlier

/-- Critiques and revisions in turn tell how they end. -/
theorem critiquesFrom_told {iteration left : Nat} {outcome : Option CycleOutcome}
    (ran : critiquesFrom context iteration left world = (.ok outcome, last))
    (earlier : Tells context rows none) : Told context rows world last outcome := by
  induction left generalizing iteration world rows with
  | zero =>
      cases ran
      exact ⟨[], (List.append_nil _).symm, by rwa [List.append_nil]⟩
  | succ left ih =>
      unfold critiquesFrom at ran
      obtain ⟨ending, criticised, challenged, ran⟩ := Run.bind_ok ran
      have challenge := challengeStep_told challenged earlier
      cases ending with
      | ended outcome =>
          cases ran
          exact challenge
      | done review =>
          obtain ⟨ending, revised, begun, ran⟩ := Run.bind_ok ran
          refine challenge.trans fun {rows} earlier => ?_
          have revision := reviseStep_told begun earlier
          cases ending with
          | ended outcome =>
              cases ran
              exact revision
          | done _ => exact revision.trans fun earlier => ih ran earlier

/-- As long as the budget lasts a round has an outcome. -/
theorem critiquesFrom_ends {iteration left : Nat}
    (ran : critiquesFrom context iteration left world = (.ok none, last))
    (budget : (iteration : Int) + left = context.policy.planningIterations + 1) : left = 0 := by
  induction left generalizing iteration world with
  | zero => rfl
  | succ left ih =>
      unfold critiquesFrom at ran
      obtain ⟨ending, criticised, -, ran⟩ := Run.bind_ok ran
      cases ending with
      | ended outcome => cases ran
      | done review =>
          obtain ⟨ending, revised, begun, ran⟩ := Run.bind_ok ran
          cases ending with
          | ended outcome => cases ran
          | done _ =>
              -- A revision that is made leaves another critique.
              have none_left : left = 0 := ih ran (by push_cast at budget ⊢; omega)
              rcases reviseStep_cases begun with ⟨-, allowed⟩ | ⟨impossible, -⟩ | ⟨_, impossible⟩
              · subst none_left
                push_cast at budget
                omega
              · cases impossible
              · cases impossible

/-! ### Planning runs -/

/-- Whether rows tell the outcome of a planning run.  A run without a budget for critiques ends
with no step. -/
def TellsOutcome (context : CycleContext) (rows : List LogEntry) (outcome : CycleOutcome) : Prop :=
  Tells context rows (some outcome) ∨
    Tells context rows none ∧ outcome = .exhausted 0 ∧ context.policy.planningIterations < 1

variable {outcome : CycleOutcome}

theorem challengePlan_told (ran : challengePlan context world = (.ok outcome, last))
    (earlier : Tells context rows none) :
    ∃ more, last.store.log = world.store.log ++ more ∧
      TellsOutcome context (rows ++ more) outcome := by
  unfold challengePlan at ran
  obtain ⟨ending, checked, begun, ran⟩ := Run.bind_ok ran
  have check := validateStep_told begun earlier
  cases ending with
  | ended outcome =>
      cases ran
      obtain ⟨more, log, tells⟩ := check
      exact ⟨more, log, .inl tells⟩
  | done _ =>
      unfold critiqueRound at ran
      obtain ⟨ended, after, round, ran⟩ := Run.bind_ok ran
      cases ran
      obtain ⟨more, log, tells⟩ := check.trans fun earlier => critiquesFrom_told round earlier
      refine ⟨more, log, ?_⟩
      cases ended with
      | some outcome => exact .inl tells
      | none =>
          refine .inr ⟨tells, rfl, Int.not_le.mp fun enough => ?_⟩
          have none_left := critiquesFrom_ends round (by omega)
          omega

theorem makePlan_told (ran : makePlan context world = (.ok outcome, last)) :
    ∃ more, last.store.log = world.store.log ++ more ∧ TellsOutcome context more outcome := by
  unfold makePlan at ran
  obtain ⟨ending, written, begun, ran⟩ := Run.bind_ok ran
  obtain ⟨more, log, tells⟩ := generateStep_told begun .nothing
  cases ending with
  | ended outcome =>
      cases ran
      exact ⟨more, log, .inl tells⟩
  | done _ =>
      obtain ⟨later, laterLog, told⟩ := challengePlan_told ran tells
      exact ⟨more ++ later, by rw [laterLog, log, List.append_assoc], told⟩

end

end Cycle

namespace Cycle

theorem onlyValidates_apply (context : CycleContext) (world : World) :
    onlyValidates context .proposed world =
      ((isWritten (context.folder world)).mapError Stop.ofFile, world) := by
  unfold onlyValidates documents
  rw [if_neg (by simp), Run.bind_of_ok (Run.look_apply _ world), Run.ofFiles_apply]

/-- Whether a proposed change only has to be validated depends on its documents. -/
theorem onlyValidates_proposed {context : CycleContext} {world after : World} {only : Bool}
    (ran : onlyValidates context .proposed world = (.ok only, after)) :
    after = world ∧ (only = true ↔ (context.folder world).IsWritten) := by
  rw [onlyValidates_apply] at ran
  obtain ⟨looked, rfl⟩ := Prod.mk.inj ran
  refine ⟨rfl, ?_⟩
  rw [← isWritten_iff]
  cases found : isWritten (context.folder world) with
  | error fault =>
      rw [found] at looked
      cases looked
  | ok written =>
      rw [found] at looked
      cases looked
      simp

end Cycle

/-! ### Runs on a change -/

/-- The execution log next to a change. -/
def Project.log (project : Project) (root : Path) (id : String) : List LogEntry :=
  ((project.records root id).map (·.log)).getD []

namespace Project

open PlanCycle.Cycle

variable {project : Project} {root : Path} {id : String} {means : Means}

theorem log_of_recorded {store : Store} (recorded : project.records root id = some store) :
    project.log root id = store.log := by
  rw [log, recorded]
  rfl

/-- Whether a run goes through the steps of a cycle: a round of critiques on a proposed change, or a
cycle on one whose plan is not all written. -/
def Executes (project : Project) (root : Path) (id : String) (means : Means)
    (report : Report CycleOutcome) : Prop :=
  project.phase? root id = some .proposed ∧
    (report = project.challenge root id means ∨
      report = project.cycle root id means ∧ ¬(project.documents root id).IsWritten)

/-- A cycle that is ready starts from the change as it is on record, with nothing shown yet. -/
theorem prepare_start {store : Store} {context : CycleContext} {phase : Phase} {ready : World}
    (recorded : project.records root id = some store)
    (prepared : project.prepare root id means (project.start root id means store) =
      (.ok (context, phase), ready)) :
    context.changeId = id ∧ project.phase? root id = some phase ∧
      context.policy = means.policy.getD (.ofSettings project.settings) ∧
      context.folder ready = project.documents root id ∧ ready.store = store ∧
      ready.events = [] := by
  obtain ⟨change, cast, lister, found, -, -, -, rfl, rfl, rfl⟩ := prepare_ok_iff.1 prepared
  obtain ⟨about, policy, folder, -, kept⟩ := prepare_ready found prepared
  have stored : store.find? id = some change := found
  refine ⟨about, ?_, policy, folder, kept, rfl⟩
  simp [phase?, recorded, Store.standing, stored]

/-- A run through the steps adds the rows that tell its outcome. -/
theorem executed_told {report : Report CycleOutcome} {outcome : CycleOutcome}
    (executes : project.Executes root id means report) (ended : report.result = .ok outcome) :
    ∃ context rows, report.project.log root id = project.log root id ++ rows ∧
      context.changeId = id ∧
      context.policy = means.policy.getD (.ofSettings project.settings) ∧
      TellsOutcome context rows outcome := by
  have finish {body : CycleContext → Phase → Run CycleOutcome}
      (ended : (project.within root id means fun _ =>
        project.onceReady root id means body).result = .ok outcome)
      (tells : ∀ {context world last}, context.folder world = project.documents root id →
        body context .proposed world = (.ok outcome, last) →
        ∃ rows, last.store.log = world.store.log ++ rows ∧ TellsOutcome context rows outcome) :
      ∃ context rows, (project.within root id means fun _ =>
          project.onceReady root id means body).project.log root id =
            project.log root id ++ rows ∧
        context.changeId = id ∧
        context.policy = means.policy.getD (.ofSettings project.settings) ∧
        TellsOutcome context rows outcome := by
    obtain ⟨store, context, phase, ready, last, recorded, prepared, went, whole⟩ :=
      onceReady_ok ended
    obtain ⟨about, current, policy, folder, kept, -⟩ := prepare_start recorded prepared
    obtain rfl := Option.some.inj (executes.1.symm.trans current)
    obtain ⟨rows, log, told⟩ := tells folder went
    refine ⟨context, rows, ?_, about, policy, told⟩
    rw [whole, log_of_recorded recorded, ← kept, ← log]
    exact log_of_recorded (by rw [records, place_setState, state_setState])
  obtain ⟨-, rfl | ⟨rfl, unwritten⟩⟩ := executes
  · refine finish ended fun _ went => ?_
    unfold runChallenge at went
    rw [if_pos rfl] at went
    exact challengePlan_told went .nothing
  · refine finish ended fun {context world last} folder went => ?_
    unfold runCycle at went
    obtain ⟨only, after, looked, went⟩ := Run.bind_ok went
    obtain ⟨rfl, written⟩ := onlyValidates_proposed looked
    cases only with
    | true => exact absurd (folder ▸ written.1 rfl) unwritten
    | false => exact makePlan_told went

/-- **The execution log follows the steps of a run.**  A planning run that goes through its steps
and has an outcome adds rows in pairs: a step started, and then it was completed or failed.  Only an
error leaves a failure, once and in the last row, with its wording and its kind.  After any other
outcome the last row says so, unless the policy allows no critique and so no step ends the run. -/
theorem log_follows_steps {report : Report CycleOutcome} {outcome : CycleOutcome}
    (executes : project.Executes root id means report) (ended : report.result = .ok outcome) :
    ∃ rows, report.project.log root id = project.log root id ++ rows ∧
      LogEntry.InPairs id rows ∧
      ((∃ row ∈ rows, row.IsFailure) ↔ outcome.IsError) ∧
      (∀ kind step message, outcome = .error kind step message →
        ∃ earlier last, rows = earlier ++ [last] ∧ (∀ row ∈ earlier, ¬row.IsFailure) ∧
          last.IsFailure ∧ last.message = some message ∧
          last.details = .object [("kind", .string kind.word)]) ∧
      (¬outcome.IsError →
        (∃ earlier last, rows = earlier ++ [last] ∧ last.event = "completed" ∧
          last.message = some outcome.describe) ∨
        outcome = .exhausted 0 ∧
          (means.policy.getD (.ofSettings project.settings)).planningIterations < 1) := by
  obtain ⟨context, rows, log, rfl, policy, tells | ⟨tells, rfl, spent⟩⟩ :=
    executed_told executes ended
  · refine ⟨rows, log, tells.inPairs, ?_⟩
    obtain ⟨earlier, last, rfl, unfailed, ⟨judged, completed, described⟩ |
      ⟨kind, step, message, rfl, failed, said, about⟩⟩ := tells.last
    · refine ⟨⟨?_, fun error => absurd error judged⟩, ?_, fun _ => .inl ?_⟩
      · rintro ⟨row, member, failed⟩
        rcases List.mem_append.mp member with old | new
        · exact absurd failed (unfailed row old)
        · rw [List.mem_singleton.mp new, LogEntry.IsFailure, completed] at failed
          exact absurd failed (by decide)
      · rintro kind step message rfl
        exact absurd ⟨kind, step, message, rfl⟩ judged
      · exact ⟨earlier, last, rfl, completed, described⟩
    · refine ⟨⟨fun _ => ⟨kind, step, message, rfl⟩, fun _ => ⟨last, by simp, failed⟩⟩, ?_, ?_⟩
      · rintro _ _ _ ⟨⟩
        exact ⟨earlier, last, rfl, unfailed, failed, said, about⟩
      · exact fun judged => absurd ⟨kind, step, message, rfl⟩ judged
  · refine ⟨rows, log, tells.inPairs, ⟨?_, ?_⟩, nofun, fun _ => .inr ⟨rfl, policy ▸ spent⟩⟩
    · rintro ⟨row, member, failed⟩
      exact absurd failed (tells.unfailed row member)
    · rintro ⟨_, _, _, impossible⟩
      cases impossible

end Project

namespace TwoTurns

/-- The rows of the two turns are in pairs, and the last one says that the plan is approved. -/
theorem approval_ends_log :
    let report := project.challenge root change.id means
    project.Executes root change.id means report ∧ report.result = .ok .approved ∧
      LogEntry.InPairs change.id (report.project.log root change.id) ∧
      ∃ earlier last, report.project.log root change.id = earlier ++ [last] ∧
        last.event = "completed" ∧ last.message = some CycleOutcome.approved.describe := by
  have executes : project.Executes root change.id means (project.challenge root change.id means) :=
    ⟨rfl, .inl rfl⟩
  have ended : (project.challenge root change.id means).result = .ok .approved :=
    (challenge_result cast.agents).trans round_approves.1
  obtain ⟨rows, log, pairs, -, -, closes⟩ := Project.log_follows_steps executes ended
  have fresh : project.log root change.id = [] := rfl
  rw [fresh, List.nil_append] at log
  have judged : ¬CycleOutcome.approved.IsError := nofun
  rcases closes judged with ⟨earlier, last, rfl, completed, described⟩ | ⟨impossible, -⟩
  · exact ⟨executes, ended, log ▸ pairs, earlier, last, log, completed, described⟩
  · cases impossible

end TwoTurns

end PlanCycle
