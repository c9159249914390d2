/-
Module: PlanCycle.Proofs.CheckedPlan
Purpose: What the critic is asked about: documents that were checked, as long as no agent or program
  of the round has changed them since.
Main exports:
  Event.Conveys, Event.LeftAlone, Event.fromFirstCritique?, Guarantee.conveying,
  Cycle.runCycle_round, Project.critic_sees_checked_plan
-/
import PlanCycle.Proofs.KeptFiles
import PlanCycle.Proofs.Rerun

namespace PlanCycle

/-! ### Documents along a trace -/

/-- Whether two folders differ in the critiques at most. -/
abbrev Folder.SameDocuments : Folder → Folder → Prop :=
  Folder.AgreesExcept (Artifact.file .challenge)

namespace Event

/-- Whether the files of a change can go on like this along a trace if only agents and programs
change documents.  From a question or a program on, up to the next files that the trace shows,
nothing is known. -/
inductive Conveys : Folder → List Event → Folder → Prop
  | done {before after : Folder} (same : before.SameDocuments after) : Conveys before [] after
  | asked {before files meanwhile after : Folder} {call : AgentCall} {rest : List Event}
      (same : before.SameDocuments files) (later : Conveys meanwhile rest after) :
      Conveys before (.asked call files :: rest) after
  | answered {before files after : Folder} {call : AgentCall} {answer : AgentAnswer}
      {accepted : Bool} {rest : List Event} (same : before.SameDocuments files)
      (later : Conveys files rest after) :
      Conveys before (.answered call answer accepted files :: rest) after
  | ran {before meanwhile after : Folder} {spawn : Spawn} {result : ProcessResult}
      {rest : List Event} (later : Conveys meanwhile rest after) :
      Conveys before (.ran spawn result :: rest) after
  | shown {before after : Folder} {event : Event} {rest : List Event} (shows : event.IsShown)
      (later : Conveys before rest after) : Conveys before (event :: rest) after

/-- Whether agents and programs left the documents alone along a trace that ends with the last
folder: what was there when one of them began to act, or was last shown before, is there when its
action is over.  The flag says whether one of them is acting. -/
def LeftAlone : Folder → Bool → List Event → Folder → Prop
  | before, acting, [], last => acting = true → before.SameDocuments last
  | before, acting, .asked _ files :: rest, last =>
      (acting = true → before.SameDocuments files) ∧ LeftAlone files true rest last
  | before, acting, .answered _ _ _ files :: rest, last =>
      (acting = true → before.SameDocuments files) ∧ LeftAlone files false rest last
  | before, _, .ran _ _ :: rest, last => LeftAlone before true rest last
  | before, acting, .line _ :: rest, last => LeftAlone before acting rest last
  | before, acting, .panel _ _ :: rest, last => LeftAlone before acting rest last
  | before, acting, .table _ _ _ :: rest, last => LeftAlone before acting rest last
  | before, acting, .warning _ :: rest, last => LeftAlone before acting rest last

namespace Conveys

variable {before middle after : Folder} {first second : List Event}

theorem of_same (same : before.SameDocuments middle) (later : Conveys middle second after) :
    Conveys before second after := by
  induction later generalizing before with
  | done more => exact .done (same.trans more)
  | asked more later _ => exact .asked (same.trans more) later
  | answered more later _ => exact .answered (same.trans more) later
  | ran later _ => exact .ran later
  | shown shows _ ih => exact .shown shows (ih same)

theorem append (earlier : Conveys before first middle) (later : Conveys middle second after) :
    Conveys before (first ++ second) after := by
  induction earlier with
  | done same => exact of_same same later
  | asked same _ ih => exact .asked same (ih later)
  | answered same _ ih => exact .answered same (ih later)
  | ran _ ih => exact .ran (ih later)
  | shown shows _ ih => exact .shown shows (ih later)

/-- Up to a question the trace conveys the files of the question. -/
theorem upToAsked {call : AgentCall} {files : Folder}
    (conveys : Conveys before (first ++ .asked call files :: second) after) :
    Conveys before first files := by
  induction first generalizing before with
  | nil =>
      cases conveys with
      | asked same later => exact .done same
      | shown shows later => cases shows
  | cons event first ih =>
      cases conveys with
      | asked same later => exact .asked same (ih later)
      | answered same later => exact .answered same (ih later)
      | ran later => exact .ran (ih later)
      | shown shows later => exact .shown shows (ih later)

/-- From a question on the trace conveys what its agent makes of the files. -/
theorem fromAsked {call : AgentCall} {files : Folder}
    (conveys : Conveys before (first ++ .asked call files :: second) after) :
    ∃ meanwhile, Conveys meanwhile second after := by
  induction first generalizing before with
  | nil =>
      cases conveys with
      | asked same later => exact ⟨_, later⟩
      | shown shows later => cases shows
  | cons event first ih =>
      cases conveys with
      | asked same later => exact ih later
      | answered same later => exact ih later
      | ran later => exact ih later
      | shown shows later => exact ih later

/-- Documents that agents and programs left alone are the same at the end: nothing else changes
them. -/
theorem same_of_leftAlone {now last shown : Folder} {acting : Bool} {events : List Event}
    (conveys : Conveys now events last) (alone : LeftAlone shown acting events last)
    (resting : acting = false → shown.SameDocuments now) : shown.SameDocuments last := by
  -- While nobody acts, what was last shown is what stands; while somebody acts nothing is known
  -- until the next files are shown, and these are as before by assumption.
  induction conveys generalizing shown acting with
  | done same =>
      cases acting with
      | true => exact alone rfl
      | false => exact (resting rfl).trans same
  | asked same later ih =>
      obtain ⟨acted, rest⟩ := alone
      refine Folder.AgreesExcept.trans ?_ (ih rest nofun)
      cases acting with
      | true => exact acted rfl
      | false => exact (resting rfl).trans same
  | answered same later ih =>
      obtain ⟨acted, rest⟩ := alone
      refine Folder.AgreesExcept.trans ?_ (ih rest fun _ => .refl _ _)
      cases acting with
      | true => exact acted rfl
      | false => exact (resting rfl).trans same
  | ran later ih => exact ih alone nofun
  | @shown _ _ event _ shows later ih =>
      cases event with
      | line text => exact ih alone resting
      | panel title text => exact ih alone resting
      | table title columns rows => exact ih alone resting
      | warning text => exact ih alone resting
      | asked call files => cases shows
      | answered call answer accepted files => cases shows
      | ran spawn result => cases shows

end Conveys

/-- The files at the first question to the critic, and what follows that question. -/
def fromFirstCritique? : List Event → Option (Folder × List Event)
  | [] => none
  | event :: rest =>
    match event.critiqued? with
    | some files => some (files, rest)
    | none => fromFirstCritique? rest

theorem fromFirstCritique?_of_others {first : List Event}
    (others : ∀ event ∈ first, event.AsksOnly (· ≠ .critic)) (second : List Event) :
    fromFirstCritique? (first ++ second) = fromFirstCritique? second := by
  induction first with
  | nil => rfl
  | cons event first ih =>
      obtain ⟨here, later⟩ := List.forall_mem_cons.mp others
      rw [List.cons_append, fromFirstCritique?, here.critiqued?]
      exact ih later

end Event

/-! ### What runs guarantee of the documents -/

/-- Only agents and programs change documents. -/
def Guarantee.conveying : Guarantee where
  holds before after := ∃ added, after.events = before.events ++ added ∧
    Event.Conveys before.files added after.files
  refl world := ⟨[], by simp, .done (.refl _ _)⟩
  trans earlier later := by
    obtain ⟨added, events, one⟩ := earlier
    obtain ⟨more, moreEvents, two⟩ := later
    exact ⟨added ++ more, by rw [moreEvents, events, List.append_assoc], one.append two⟩
  line _ _ := ⟨_, rfl, .shown trivial (.done (.refl _ _))⟩
  warning _ _ := ⟨_, rfl, .shown trivial (.done (.refl _ _))⟩
  logs _ _ := ⟨[], by simp, .done (.refl _ _)⟩

section

open Run Guarantee

theorem Run.runProcess_conveys (spawn : ProcessResult → Spawn) :
    Guarantees conveying (Run.runProcess spawn) := by
  intro world result last ran
  obtain ⟨ending, -, -, -, events⟩ := Run.runProcess_cases ran
  exact ⟨_, events, .ran (.done (.refl _ _))⟩

theorem AgentCall.invoke_conveys (call : AgentCall) (root : Path) :
    Guarantees conveying (call.invoke root) := by
  intro world result last ran
  unfold invoke at ran
  rw [Run.bind_of_ok (Run.look_apply _ world),
    Run.bind_of_ok (Run.emit_apply (.asked call world.files) world),
    Run.bind_of_ok (Run.look_apply _ _), World.agents_shows] at ran
  cases agent : world.agents call.role with
  | ready first others =>
      rw [agent] at ran
      dsimp only at ran
      rw [askReady_apply] at ran
      obtain ⟨-, rfl⟩ := Prod.mk.inj ran
      exact ⟨[.asked call world.files], rfl, .asked (.refl _ _) (.done (.refl _ _))⟩
  | program setup =>
      rw [agent] at ran
      have asking : Guarantees conveying (call.askProgram root setup) :=
        .bind (.ofExcept _) fun words => .bind (Run.runProcess_conveys _) fun result => .ofExcept _
      obtain ⟨added, events, conveys⟩ := asking ran
      refine ⟨.asked call world.files :: added, ?_, .asked (.refl _ _) conveys⟩
      simp [events]

theorem Folder.agreesExcept_append {folder after : Folder} {name text : String}
    (added : folder.append [name] text = .ok after) : AgreesExcept [name] folder after := by
  intro other differs
  have made : makeParents [name] folder = .ok folder := rfl
  unfold append writeContent at added
  rw [made] at added
  dsimp only [bind, Except.bind] at added
  split at added
  · cases added
  · cases added
    exact (entry?_put_of_ne folder differs _).symm

/-- Calls, programs and critiques: of these only the first two change documents. -/
theorem Guarantee.conveying_covers : conveying.Covers where
  call call context accept :=
    AgentCall.run_guarantees (call.invoke_conveys context.root) fun _ _ _ =>
      ⟨_, rfl, .answered (.refl _ _) (.done (.refl _ _))⟩
  process := Run.runProcess_conveys
  session work := by
    have records (world : World) (store : Store) : conveying.holds world { world with store } :=
      ⟨[], by simp, .done (.refl _ _)⟩
    exact .session records work
  critique text := by
    intro world result last ran
    unfold Run.changeFiles at ran
    split at ran
    · rename_i files added
      cases ran
      exact ⟨[], by simp, .done (Folder.agreesExcept_append added)⟩
    · cases ran
      exact conveying.refl _

end

/-! ### How a round of critiques begins -/

theorem World.Continues.of_conveying {before after : World}
    (conveys : Guarantee.conveying.holds before after) : before.Continues after := by
  obtain ⟨added, events, -⟩ := conveys
  exact ⟨added, events⟩

namespace Cycle

open Run Guarantee

/-- Whether no critic was asked, or a critic was asked first, about the files as they were. -/
def Opens (id : String) (before after : World) : Prop :=
  before.Aside id (· ≠ .critic) after ∨ AsksFirst before after before.files

section
variable {context : CycleContext} {iteration : Nat} {world last : World}

/-- A call of the critic asks about the files as they are, unless no attempt is allowed. -/
theorem call_asksFirst {call : AgentCall} (critic : call.role = .critic)
    {accept : Folder → AgentAnswer → Bool} {result : Except Stop AgentAnswer}
    (ran : call.run context accept world = (result, last)) :
    (last = world ∧ ∀ answer, result ≠ .ok answer) ∨ AsksFirst world last world.files := by
  rcases AgentCall.run_leaves ran with ⟨rfl, rfl⟩ | ⟨⟨-, tried, -, events⟩, -⟩
  · exact .inl ⟨rfl, nofun⟩
  · exact .inr ⟨[], call, tried ++ call.ending last result, by simp [events],
      List.forall_mem_nil _, critic⟩

/-- The frame of a step goes aside from what its body left. -/
theorem runStep_frames {α : Type} {name : String} {body : Run (StepEnd α)}
    {result : Except Stop (StepEnd α)} (ran : runStep context name body world = (result, last)) :
    ∃ ended after, body (world.logs (stepEvent context name "started")) = (ended, after) ∧
      ∀ id mayAsk, after.Aside id mayAsk last := by
  rcases runStep_cases ran with ⟨ending, after, body, -, rfl⟩ |
    ⟨failure, after, body, -, -, rfl⟩ | ⟨breakdown, reason, after, shown, body, -, rfl, lines⟩
  · exact ⟨_, after, body, fun _ _ => .logs⟩
  · exact ⟨_, after, body, fun _ _ => .afterFailure⟩
  · exact ⟨_, after, body, fun _ _ => .lines lines⟩

/-- A critique asks the critic about the files as they are, unless it cannot ask. -/
theorem critique_opens {result : Except Stop Review}
    (ran : critique context iteration world = (result, last)) :
    Opens context.changeId world last := by
  unfold critique documents at ran
  rw [Run.bind_of_ok (Run.look_apply _ world), Run.bind_of_ok (Run.say_apply _ world)] at ran
  have begun : world.Aside context.changeId (· ≠ .critic)
      (world.shows [critiqueLine context iteration]) :=
    .shows (by simp [critiqueLine, Event.AsksOnly])
  rcases Run.bind_cases ran with ⟨_, stopped, -⟩ | ⟨prompt, _, read, ran⟩
  · exact .inl (begun.trans (Run.IsAside.aside (.ofFiles _) stopped))
  obtain ⟨-, rfl⟩ := Run.ofFiles_ok_iff.1 read
  rcases Run.bind_cases ran with ⟨_, stopped, -⟩ | ⟨answer, after, answered, ran⟩
  · rcases call_asksFirst rfl stopped with ⟨rfl, -⟩ | asks
    · exact .inl begun
    · exact .inr (.after begun asks)
  · have rest : Guarantees conveying (do
        Run.warnAll (Review.warnings answer.output)
        warnOfUsage "challenge" answer
        Run.session (keepCritique context answer (Review.parse answer.output) iteration)
        return Review.parse answer.output) :=
      .bind (.warnAll _) fun _ => .bind (warnOfUsage_guarantees _ _) fun _ =>
        .bind (conveying_covers.session _) fun _ => .pure _
    rcases call_asksFirst rfl answered with ⟨-, unanswered⟩ | asks
    · exact absurd rfl (unanswered answer)
    · exact .inr ((AsksFirst.after begun asks).continues (.of_conveying (rest ran)))

theorem challengeStep_opens {result : Except Stop (StepEnd Review)}
    (ran : challengeStep context iteration world = (result, last)) :
    Opens context.changeId world last := by
  have begun : world.Aside context.changeId (· ≠ .critic)
    (world.logs (stepEvent context "challenge" "started")) := .logs
  obtain ⟨_, after, body, later⟩ := runStep_frames ran
  have rest := later context.changeId (· ≠ .critic)
  rcases Run.bind_cases body with ⟨_, stopped, -⟩ | ⟨review, kept, made, applied⟩
  · rcases critique_opens stopped with aside | asks
    · exact .inl ((begun.trans aside).trans rest)
    · exact .inr (.after begun (asks.continues rest.continues))
  · have applying := applyCritique_guarantees conveying_covers.critique context iteration review
      applied
    have asks := (critique_asksFirst made).continues (.of_conveying applying)
    exact .inr (.after begun (asks.continues rest.continues))

/-- A round asks the critic about the files as they are, unless it cannot ask. -/
theorem critiquesFrom_opens {left : Nat} {result : Except Stop (Option CycleOutcome)}
    (ran : critiquesFrom context iteration left world = (result, last)) :
    Opens context.changeId world last := by
  cases left with
  | zero =>
      cases ran
      exact .inl (.refl _)
  | succ left =>
      unfold critiquesFrom at ran
      rcases Run.bind_cases ran with ⟨_, stopped, -⟩ | ⟨ending, after, challenged, ran⟩
      · exact challengeStep_opens stopped
      cases ending with
      | ended outcome =>
          cases ran
          exact challengeStep_opens challenged
      | done review =>
          have rest : conveying.holds after last := by
            refine Guarantees.bind (reviseStep_guarantees conveying_covers context _ _)
              (fun ending => ?_) ran
            cases ending with
            | ended outcome => exact .pure _
            | done _ => exact critiquesFrom_guarantees conveying_covers context _ _
          rcases challengeStep_asksFirst challenged with asks | ⟨failure, impossible⟩
          · exact .inr (asks.continues (.of_conveying rest))
          · cases impossible

/-! ### Rounds on checked documents -/

/-- How a planning cycle or a round of critiques goes: the critic is not asked at all, or it is
asked first about valid documents, which from then on only agents and programs change. -/
inductive Round (id : String) (place : Path) (before after : World) : Prop
  | aside (went : before.Aside id (· ≠ .critic) after)
  | checked {middle : World} (earlier : before.Aside id (· ≠ .critic) middle)
      (valid : ChangeFolder.IsValid ⟨place, middle.files⟩)
      (asks : AsksFirst middle after middle.files) (conveys : conveying.holds middle after)

theorem Round.after {id : String} {place : Path} {before middle last : World}
    (earlier : before.Aside id (· ≠ .critic) middle) (round : Round id place middle last) :
    Round id place before last := by
  cases round with
  | aside went => exact .aside (earlier.trans went)
  | checked begun valid asks conveys => exact .checked (earlier.trans begun) valid asks conveys

theorem challengePlan_round {result : Except Stop CycleOutcome}
    (ran : challengePlan context world = (result, last)) :
    Round context.changeId context.place world last := by
  have checking : Run.IsAside context.changeId (· ≠ .critic) (validateStep context) :=
    validateStep_isAside context
  rcases Run.bind_cases ran with ⟨_, stopped, -⟩ | ⟨ending, checked, begun, ran⟩
  · exact .aside (checking.aside stopped)
  have earlier := checking.aside begun
  cases ending with
  | ended outcome =>
      cases ran
      exact .aside earlier
  | done _ =>
      obtain ⟨validation, found, fine, same⟩ := validateStep_done_iff.1 begun
      have valid : (context.folder checked).IsValid := by
        rw [same]
        exact ⟨validation, found, fine⟩
      have round : Opens context.changeId checked last := by
        rcases Run.bind_cases ran with ⟨_, stopped, -⟩ | ⟨_, _, went, ended⟩
        · exact critiquesFrom_opens stopped
        · cases ended
          exact critiquesFrom_opens went
      rcases round with aside | asks
      · exact .aside (earlier.trans aside)
      · exact .checked earlier valid asks (critiqueRound_guarantees conveying_covers context ran)

theorem runChallenge_round {phase : Phase} {result : Except Stop CycleOutcome}
    (ran : runChallenge context phase world = (result, last)) :
    Round context.changeId context.place world last := by
  unfold runChallenge at ran
  split at ran
  · exact challengePlan_round ran
  · cases ran
    exact .aside (.refl _)

theorem runCycle_round {phase : Phase} {result : Except Stop CycleOutcome}
    (ran : runCycle context phase world = (result, last)) :
    Round context.changeId context.place world last := by
  have looking : Run.IsAside context.changeId (· ≠ .critic) (onlyValidates context phase) :=
    onlyValidates_isAside context phase
  unfold runCycle at ran
  rcases Run.bind_cases ran with ⟨_, stopped, -⟩ | ⟨only, looked, begun, ran⟩
  · exact .aside (looking.aside stopped)
  apply Round.after (looking.aside begun)
  cases only with
  | true =>
      have showing : Run.IsAside context.changeId (· ≠ .critic)
          (Run.say "[dim]All artifacts present; validating only[/dim]" >>= fun _ =>
            outcomeFromRecords context phase) :=
        .bind (.say _) fun _ => outcomeFromRecords_isAside context phase
      exact .aside (showing.aside ran)
  | false =>
      have writing : Run.IsAside context.changeId (· ≠ .critic) (generateStep context) :=
        generateStep_isAside (by decide) context
      rcases Run.bind_cases ran with ⟨_, stopped, -⟩ | ⟨ending, written, generated, ran⟩
      · exact .aside (writing.aside stopped)
      apply Round.after (writing.aside generated)
      cases ending with
      | ended outcome =>
          cases ran
          exact .aside (.refl _)
      | done _ => exact challengePlan_round ran

end

/-- A trace that begins with a round tells whether the critic was asked, and if so, how the
documents went on from there. -/
theorem Round.asked {id : String} {place : Path} {before after : World}
    (round : Round id place before after) (fresh : before.events = []) :
    (Event.fromFirstCritique? after.events = none ∧
        after.store.standing id = before.store.standing id) ∨
      ∃ first rest meanwhile, Event.fromFirstCritique? after.events = some (first, rest) ∧
        ChangeFolder.IsValid ⟨place, first⟩ ∧ Event.Conveys meanwhile rest after.files := by
  cases round with
  | aside went =>
      obtain ⟨added, events, others⟩ := went.traced
      have unasked := Event.fromFirstCritique?_of_others others []
      rw [List.append_nil] at unasked
      rw [events, fresh, List.nil_append]
      exact .inl ⟨unasked, went.standing⟩
  | @checked middle earlier valid asks conveys =>
      obtain ⟨added, events, others⟩ := earlier.traced
      obtain ⟨more, call, later, asking, ask, critic⟩ := asks
      obtain ⟨traced, tracedEvents, conveys⟩ := conveys
      have whole : traced = more ++ .asked call middle.files :: later := by
        rw [asking, List.append_assoc] at tracedEvents
        exact (List.append_cancel_left tracedEvents).symm
      rw [whole] at conveys
      obtain ⟨meanwhile, rest⟩ := conveys.fromAsked
      refine .inr ⟨middle.files, later, meanwhile, ?_, valid, rest⟩
      rw [asking, events, fresh, List.nil_append, List.append_assoc,
        Event.fromFirstCritique?_of_others others, Event.fromFirstCritique?_of_others ask,
        Event.fromFirstCritique?, Event.critiqued?, if_pos critic]

/-- Whoever sees the documents left alone since the first question to the critic sees valid ones. -/
theorem Round.documents {id : String} {place : Path} {before after : World}
    (round : Round id place before after) (fresh : before.events = []) {first : Folder}
    {rest : List Event} (found : Event.fromFirstCritique? after.events = some (first, rest)) :
    ChangeFolder.IsValid ⟨place, first⟩ ∧
      (∀ middle call files late, rest = middle ++ .asked call files :: late →
        Event.LeftAlone first true middle files → ChangeFolder.IsValid ⟨place, files⟩) ∧
      (Event.LeftAlone first true rest after.files →
        ChangeFolder.IsValid ⟨place, after.files⟩) := by
  rcases round.asked fresh with ⟨unasked, -⟩ | ⟨shown, later, meanwhile, asked, valid, conveys⟩
  · rw [unasked] at found
    cases found
  rw [asked] at found
  obtain ⟨rfl, rfl⟩ := Prod.mk.inj (Option.some.inj found)
  have still {middle : List Event} {now last : Folder} (goes : Event.Conveys now middle last)
      (alone : Event.LeftAlone shown true middle last) : ChangeFolder.IsValid ⟨place, last⟩ := by
    have same : shown.SameDocuments last := goes.same_of_leftAlone alone nofun
    exact valid.congr same
  refine ⟨valid, ?_, still conveys⟩
  rintro middle call files late rfl
  exact still conveys.upToAsked

end Cycle

namespace Project

open PlanCycle.Cycle

variable {project : Project} {root : Path} {id : String} {means : Means}

/-- The phase in which a change is on record. -/
def phase? (project : Project) (root : Path) (id : String) : Option Phase :=
  (project.records root id).bind fun store => (store.standing id).1

/-- A run on a change goes in a round if it does once the cycle is ready. -/
theorem onceReady_round {body : CycleContext → Phase → Run CycleOutcome}
    (goes : ∀ {context phase world result last}, body context phase world = (result, last) →
      Round context.changeId context.place world last)
    {store : Store} {result : Except Stop CycleOutcome} {last : World}
    (ran : project.onceReady root id means body (project.start root id means store) =
      (result, last)) :
    Round id (project.place root id) (project.start root id means store) last := by
  have preparing : Run.IsAside id (· ≠ .critic) (project.prepare root id means) :=
    prepare_isAside project root id means
  rcases Run.bind_cases ran with ⟨_, stopped, -⟩ | ⟨⟨context, phase⟩, ready, prepared, went⟩
  · exact .aside (preparing.aside stopped)
  apply Round.after (preparing.aside prepared)
  obtain ⟨change, cast, lister, found, -, -, -, rfl, -⟩ := prepare_ok_iff.1 prepared
  have same := Store.id_of_find? found
  have round := goes went
  rw [show (project.context root change cast means lister).changeId = id from same,
    show (project.context root change cast means lister).place = project.place root id from
      congrArg (project.place root) same] at round
  exact round

/-- **The critic is asked about valid documents** when it is first asked.  When it is asked again,
and when the run is over, the documents are still valid unless an agent or a program has changed
them since then; and without a question to the critic no change is challenged. -/
theorem critic_sees_checked_plan (project : Project) (root : Path) (id : String) (means : Means)
    {report : Report CycleOutcome}
    (run : report ∈ [project.cycle root id means, project.challenge root id means]) :
    let place := project.place root id
    let last := (report.project.state place).files
    (∀ first rest, Event.fromFirstCritique? report.events = some (first, rest) →
      ChangeFolder.IsValid ⟨place, first⟩ ∧
        (∀ middle call files late, rest = middle ++ .asked call files :: late →
          Event.LeftAlone first true middle files → ChangeFolder.IsValid ⟨place, files⟩) ∧
        (Event.LeftAlone first true rest last → ChangeFolder.IsValid ⟨place, last⟩)) ∧
      (report.project.phase? root id = some .challenged →
        project.phase? root id ≠ some .challenged →
          ∃ first rest, Event.fromFirstCritique? report.events = some (first, rest)) := by
  have ready : ∃ body : CycleContext → Phase → Run CycleOutcome,
      (∀ {context phase world result last}, body context phase world = (result, last) →
        Round context.changeId context.place world last) ∧
      report = project.within root id means fun _ => project.onceReady root id means body := by
    simp only [List.mem_cons, List.not_mem_nil, or_false] at run
    rcases run with rfl | rfl
    · exact ⟨Cycle.runCycle, runCycle_round, cycle_eq project root id means⟩
    · exact ⟨Cycle.runChallenge, runChallenge_round, challenge_eq project root id means⟩
  obtain ⟨body, goes, rfl⟩ := ready
  cases recorded : project.records root id with
  | none =>
      rw [within_of_unrecorded recorded]
      exact ⟨nofun, fun same moved => absurd same moved⟩
  | some store =>
      rcases ran : project.onceReady root id means body (project.start root id means store) with
        ⟨result, last⟩
      have round := onceReady_round goes ran
      rw [within_of_recorded recorded ran]
      simp only [state_setState]
      refine ⟨fun first rest found => round.documents rfl found, fun challenged moved => ?_⟩
      rcases round.asked rfl with ⟨-, same⟩ | ⟨first, rest, _, found, -⟩
      · refine absurd ?_ moved
        simp only [phase?, records, place_setState, state_setState, Option.bind_some] at challenged
        rw [phase?, recorded, Option.bind_some, ← challenged, same]
        rfl
      · exact ⟨first, rest, found⟩

end Project

/-! ### Two turns that are evaluated -/

namespace TwoTurns

open PlanCycle.Cycle ChangeFolder

/-- Other agents in the same two turns. -/
def meansOf (agents : Role → Agent) : Means := { means with cast := some { agents } }

/-- The world once documents are checked in which nothing is found. -/
def checkedWith (files : Folder) (store : Store) (agents : Role → Agent) : World :=
  let ready : World := { files, store, agents, processes := means.processes }
  (ready.logs (stepEvent context "validate" "started")).logs
    (stepEvent context "validate" "completed")

/-- A new round on documents in which nothing is found is the round of critiques after the check. -/
theorem runChallenge_eq_critiqueRound {files : Folder} (store : Store) (agents : Role → Agent)
    (clean : checkup ⟨context.place, files⟩ = ⟨0, .ok ⟨[]⟩⟩) :
    runChallenge context .proposed { files, store, agents, processes := means.processes } =
      critiqueRound context (checkedWith files store agents) := by
  let ready : World := { files, store, agents, processes := means.processes }
  have folder : context.folder ready = ⟨context.place, files⟩ := rfl
  have unwarned : skippedWarnings (context.folder ready) = [] := by
    rw [skippedWarnings, folder, clean]
    rfl
  have valid : validateStep context ready = (.ok (.done ()), checkedWith files store agents) := by
    refine validateStep_done_iff.2 ⟨⟨[]⟩, ?_, rfl, ?_⟩
    · rw [folder, clean]
    · unfold afterCheck
      rw [unwarned]
      rfl
  unfold runChallenge
  rw [if_pos rfl]
  unfold challengePlan
  rw [Run.bind_of_ok valid]

/-- A new round of critiques of the change is one on its documents, if nothing is found in them. -/
theorem challenge_eq_critiqueRound {later : Project} {files : Folder} {store : Store}
    {known : Change} (agents : Role → Agent) (settings : later.settings = project.settings)
    (stands : later.state (project.place root change.id) = { files, store := some store })
    (found : store.find? change.id = some known) (proposed : known.phase = .proposed)
    (described : known.description = change.description)
    (clean : checkup ⟨context.place, files⟩ = ⟨0, .ok ⟨[]⟩⟩) :
    later.challenge root change.id (meansOf agents) =
      { result := (critiqueRound context (checkedWith files store agents)).1
        project := later.setState (project.place root change.id)
          { files := (critiqueRound context (checkedWith files store agents)).2.files
            store := some (critiqueRound context (checkedWith files store agents)).2.store }
        events := (critiqueRound context (checkedWith files store agents)).2.events } := by
  let ready : World := { files, store, agents, processes := means.processes }
  have place : later.place root change.id = project.place root change.id := by
    unfold Project.place
    rw [settings]
  have recorded : later.records root change.id = some store := by
    rw [Project.records, place, stands]
  have sameContext : later.context root known { agents } means lister = context := by
    unfold context Project.context Project.place
    rw [settings, described, Store.id_of_find? found]
    rfl
  have prepared : later.prepare root change.id (meansOf agents)
      (later.start root change.id (meansOf agents) store) = (.ok (context, .proposed), ready) := by
    refine Project.prepare_ok_iff.2 ⟨known, { agents }, lister, found, rfl, ?_, rfl,
      sameContext.symm, proposed.symm, ?_⟩
    · rw [settings]
      exact listed
    · unfold Project.start
      rw [place, stands]
      rfl
  have went := runChallenge_eq_critiqueRound store agents clean
  have whole : later.challenge root change.id (meansOf agents) = _ :=
    Project.within_onceReady recorded prepared (went.trans (Prod.eta _).symm)
  rw [whole, place]

/-- The world once the least plan is checked. -/
def checked (agents : Role → Agent) : World :=
  checkedWith leastPlan { changes := [change] } agents

/-- The round of critiques on the least plan. -/
def round (agents : Role → Agent) : Except Stop CycleOutcome × World :=
  critiqueRound context (checked agents)

/-- A new round of critiques is one on the least plan, which is valid. -/
theorem challenge_eq_round (agents : Role → Agent) :
    project.challenge root change.id (meansOf agents) =
      { result := (round agents).1
        project := project.setState (project.place root change.id)
          { files := (round agents).2.files, store := some (round agents).2.store }
        events := (round agents).2.events } := by
  unfold round checked
  exact challenge_eq_critiqueRound agents rfl state_project found rfl rfl (checkup_leastPlan _)

section
variable (agents : Role → Agent)

theorem challenge_result :
    (project.challenge root change.id (meansOf agents)).result = (round agents).1 := by
  rw [challenge_eq_round]

theorem challenge_events :
    (project.challenge root change.id (meansOf agents)).events = (round agents).2.events := by
  rw [challenge_eq_round]

theorem challenge_files :
    ((project.challenge root change.id (meansOf agents)).project.state
      (project.place root change.id)).files = (round agents).2.files := by
  rw [challenge_eq_round, Project.state_setState]

theorem challenge_phase? :
    (project.challenge root change.id (meansOf agents)).project.phase? root change.id =
      ((round agents).2.store.standing change.id).1 := by
  rw [challenge_eq_round, Project.phase?, Project.records, Project.place_setState,
    Project.state_setState, Option.bind_some]

end

theorem ok_of_toOption {α : Type} {result : Except Stop α} {value : α}
    (gave : result.toOption = some value) : result = .ok value := by
  cases result with
  | ok other => exact congrArg Except.ok (Option.some.inj gave)
  | error reason => cases gave

/-- The round of the two turns accepts three answers, and the plan is approved. -/
theorem round_approves :
    (round cast.agents).1 = .ok .approved ∧
      ((round cast.agents).2.store.standing change.id).1 = some .challenged ∧
      (Event.acceptedCalls (round cast.agents).2.events).length = 3 := by
  obtain ⟨kept, shown, ran, ⟨final, recorded, -, phase⟩, -, calls⟩ := runChallenge_gives
    (fun _ _ _ _ => rfl) reached dialogue (leastPlan_isValid _) (by decide) found rfl rfl (by decide)
    rfl []
  have whole : round cast.agents = _ :=
    (runChallenge_eq_critiqueRound _ _ (checkup_leastPlan _)).symm.trans ran
  rw [roundOutcome_turn] at whole phase
  have standing : (kept.standing change.id).1 = some .challenged := by
    have known : kept.find? change.id = some final := recorded
    rw [Store.standing, known, Option.map_some, phase]
    rfl
  rw [whole]
  exact ⟨rfl, standing, congrArg List.length calls⟩

/-- The critic of the two turns is asked about a valid plan first, and the change is challenged in
the end. -/
theorem round_begins_checked :
    let report := project.challenge root change.id means
    report.project.phase? root change.id = some .challenged ∧
      ∃ first rest, Event.fromFirstCritique? report.events = some (first, rest) ∧
        IsValid ⟨project.place root change.id, first⟩ := by
  have challenged : (project.challenge root change.id means).project.phase? root change.id =
      some .challenged := (challenge_phase? cast.agents).trans round_approves.2.1
  have proposed : project.phase? root change.id ≠ some .challenged := by decide
  obtain ⟨documents, asked⟩ := Project.critic_sees_checked_plan project root change.id means
    (List.mem_cons_of_mem _ List.mem_cons_self)
  obtain ⟨first, rest, found⟩ := asked challenged proposed
  exact ⟨challenged, first, rest, found, (documents first rest found).1⟩

/-- The same critic, and a generator that deletes the task list instead of revising it. -/
def careless : Role → Agent
  | .critic => cast.agents .critic
  | _ => .ready { replyOf "done" with edits := [.remove (Artifact.file .tasks)] } []

set_option maxRecDepth 100000 in
/-- A critic is asked about a plan without its task list once a revision has deleted it, and the
change is challenged without it. -/
theorem critic_sees_broken_plan :
    let report := project.challenge root change.id (meansOf careless)
    let place := project.place root change.id
    (∃ event ∈ report.events, ∃ files, event.critiqued? = some files ∧
        ¬IsValid ⟨place, files⟩) ∧
      report.project.phase? root change.id = some .challenged ∧
      ¬IsValid ⟨place, (report.project.state place).files⟩ := by
  have broken {files : Folder} (listless : files.isFile (Artifact.file .tasks) = false) :
      ¬IsValid ⟨project.place root change.id, files⟩ := by
    intro valid
    have there := (isValid_iff.1 valid).2.1
    rw [show has ⟨project.place root change.id, files⟩ .tasks = false from listless] at there
    cases there
  have evaluated : ((round careless).2.events.filterMap Event.critiqued?).any
        (fun files => !files.isFile (Artifact.file .tasks)) = true ∧
      ((round careless).2.store.standing change.id).1 = some .challenged ∧
      (round careless).2.files.isFile (Artifact.file .tasks) = false := by decide +kernel
  obtain ⟨asked, phase, left⟩ := evaluated
  obtain ⟨files, among, listless⟩ := List.any_eq_true.mp asked
  obtain ⟨event, member, critiqued⟩ := List.mem_filterMap.mp among
  dsimp only
  rw [challenge_events, challenge_phase?, challenge_files]
  exact ⟨⟨event, member, files, critiqued, broken (by simpa using listless)⟩, phase, broken left⟩

end TwoTurns

end PlanCycle
