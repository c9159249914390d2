/-
Module: PlanCycle.Proofs.Standing
Purpose: Where a change stands: its phase and the last critique of its plan, and what leaves both
  and all earlier critiques alone.
Main exports:
  Store.standing, Store.critiquesOf, World.Aside, Run.IsAside, Cycle.generateStep_isAside,
  Cycle.validateStep_isAside, Cycle.reviseStep_isAside
-/
import PlanCycle.Proofs.AgentCall

namespace PlanCycle

variable {α β : Type}

/-! ### Records -/

namespace Store

/-- The phase of a change and the last critique of its plan. -/
def standing (store : Store) (id : String) : Option Phase × Option ReviewEntry :=
  ((store.find? id).map (·.phase), store.latestCritique? id)

/-- The critiques of a change's plan on record, oldest first. -/
def critiquesOf (store : Store) (id : String) : List ReviewEntry :=
  store.reviewsOf id (some ReviewEntry.critique)

theorem latestCritique?_eq (store : Store) (id : String) :
    store.latestCritique? id = (store.critiquesOf id).getLast? := rfl

theorem id_of_find? {store : Store} {id : String} {change : Change}
    (found : store.find? id = some change) : change.id = id := by
  simpa using List.find?_some found

/-- Exchanging records keeps the ids, so the same entry is found before and after. -/
theorem find?_withChange (store : Store) (id : String) (change : Change) :
    (store.withChange change).find? id =
      (store.find? id).map fun known => if known.id = change.id then change else known := by
  have sameIds : ((fun entry : Change => entry.id == id) ∘
      fun known => if known.id = change.id then change else known) =
        fun entry => entry.id == id := by
    funext known
    by_cases same : known.id = change.id
    · simp [same]
    · simp [same]
  unfold find? withChange
  rw [List.find?_map, sameIds]

/-- A record that takes the place of another one is found under its id. -/
theorem find?_withChange_self {store : Store} {id : String} {old change : Change}
    (found : store.find? id = some old) (same : change.id = old.id) :
    (store.withChange change).find? id = some change := by
  rw [find?_withChange, found]
  simp [same]

/-- A record that differs from the old one in neither id nor phase leaves the standing alone. -/
theorem standing_withChange {store : Store} {old change : Change}
    (found : store.find? change.id = some old) (same : change.phase = old.phase) (id : String) :
    (store.withChange change).standing id = store.standing id := by
  unfold standing
  refine Prod.ext ?_ rfl
  rw [find?_withChange]
  cases known : store.find? id with
  | none => rfl
  | some entry =>
      by_cases named : entry.id = change.id
      · have ids : change.id = id := named.symm.trans (id_of_find? known)
        rw [ids, known] at found
        cases found
        simp [named, same]
      · simp [named]

/-- A critique of a change is added to the earlier ones. -/
theorem critiquesOf_critique {store : Store} {entry : ReviewEntry}
    (critique : entry.kind = ReviewEntry.critique) :
    ({ store with reviews := store.reviews ++ [entry] } : Store).critiquesOf entry.changeId =
      store.critiquesOf entry.changeId ++ [entry] := by
  simp [critiquesOf, reviewsOf, critique]

/-- A critique of a change is its last one from then on. -/
theorem latestCritique?_critique {store : Store} {entry : ReviewEntry}
    (critique : entry.kind = ReviewEntry.critique) :
    ({ store with reviews := store.reviews ++ [entry] } : Store).latestCritique? entry.changeId =
      some entry := by
  rw [latestCritique?_eq, critiquesOf_critique critique]
  simp

/-- A review of another kind is no critique. -/
theorem critiquesOf_other (store : Store) {entry : ReviewEntry}
    (other : entry.kind ≠ ReviewEntry.critique) (id : String) :
    ({ store with reviews := store.reviews ++ [entry] } : Store).critiquesOf id =
      store.critiquesOf id := by
  simp [critiquesOf, reviewsOf, other.symm]

end Store

/-! ### Sessions that leave the standing alone -/

/-- The sessions after which a change stands where it stood, with the same critiques on record. -/
def Session.KeepsStanding (id : String) (work : Session α) : Prop :=
  ∀ ⦃store value last⦄, work store = .ok (value, last) →
    last.standing id = store.standing id ∧ last.critiquesOf id = store.critiquesOf id

namespace Session.KeepsStanding

variable {id : String}

theorem pure (value : α) : KeepsStanding id (pure value : Session α) := by
  intro store given last worked
  obtain ⟨-, rfl⟩ := Session.pure_ok_iff.1 worked
  exact ⟨rfl, rfl⟩

theorem bind {first : Session α} {next : α → Session β} (one : KeepsStanding id first)
    (two : ∀ value, KeepsStanding id (next value)) : KeepsStanding id (first >>= next) := by
  intro store value last worked
  obtain ⟨between, after, begun, ended⟩ := Session.bind_ok_iff.1 worked
  obtain ⟨stands, critiques⟩ := two between ended
  exact ⟨stands.trans (one begun).1, critiques.trans (one begun).2⟩

theorem load (other : String) : KeepsStanding id (Session.load other) := by
  intro store change last worked
  obtain ⟨-, rfl⟩ := Session.load_ok_iff.1 worked
  exact ⟨rfl, rfl⟩

theorem modify {other : String} {edit : Change → Change}
    (sameId : ∀ change, (edit change).id = change.id)
    (samePhase : ∀ change, (edit change).phase = change.phase) :
    KeepsStanding id (Session.modify other edit) := by
  intro store after last worked
  obtain ⟨change, found, rfl, -, rfl⟩ := Session.modify_ok_iff.1 worked
  refine ⟨Store.standing_withChange ?_ (samePhase change) id, rfl⟩
  rw [sameId, Store.id_of_find? found]
  exact found

theorem addReview {entry : ReviewEntry} (other : entry.kind ≠ ReviewEntry.critique) :
    KeepsStanding id (Session.addReview entry) := by
  intro store row last worked
  obtain ⟨-, -, -, rfl⟩ := Session.addReview_ok_iff.1 worked
  have same := Store.critiquesOf_other store other id
  exact ⟨Prod.ext rfl (congrArg List.getLast? same), same⟩

theorem requireWhole (answer : AgentAnswer) : KeepsStanding id (PlanCycle.requireWhole answer) := by
  intro store value last worked
  obtain ⟨-, rfl⟩ := requireWhole_ok_iff.1 worked
  exact ⟨rfl, rfl⟩

theorem recordUsage (context : CycleContext) (step : String) (answer : AgentAnswer) :
    KeepsStanding id (PlanCycle.recordUsage context step answer) := by
  intro store record last worked
  obtain ⟨-, -, rfl⟩ := recordUsage_ok_iff.1 worked
  exact ⟨rfl, rfl⟩

end Session.KeepsStanding

/-! ### Runs that leave the standing alone -/

/-- Whether only agents that may be asked are asked. -/
def Event.AsksOnly (mayAsk : Role → Prop) : Event → Prop
  | .asked call _ | .answered call _ _ _ => mayAsk call.role
  | _ => True

/-- A change stands where it stood, with the same critiques on record, and what was added to the
trace asks no agent but those that may be asked. -/
structure World.Aside (id : String) (mayAsk : Role → Prop) (before after : World) : Prop where
  standing : after.store.standing id = before.store.standing id
  critiques : after.store.critiquesOf id = before.store.critiquesOf id
  traced : ∃ added, after.events = before.events ++ added ∧
    ∀ event ∈ added, event.AsksOnly mayAsk

/-- Whether a run goes aside from what a critique is about, however it ends. -/
def Run.IsAside (id : String) (mayAsk : Role → Prop) (run : Run α) : Prop :=
  ∀ world : World, world.Aside id mayAsk (run world).2

section
variable {id : String} {mayAsk : Role → Prop}

theorem AgentCall.IsAttempt.asksOnly {call : AgentCall} {event : Event}
    (asked : mayAsk call.role) (attempt : call.IsAttempt event) : event.AsksOnly mayAsk := by
  cases event with
  | asked other files =>
      cases attempt
      exact asked
  | answered other answer accepted files =>
      obtain ⟨rfl, -⟩ := attempt
      exact asked
  | line text => trivial
  | panel title text => trivial
  | table title columns rows => trivial
  | warning text => trivial
  | ran spawn result => trivial

theorem World.Aside.refl (world : World) : world.Aside id mayAsk world :=
  ⟨rfl, rfl, [], by simp, by simp⟩

theorem World.Aside.trans {first middle last : World} (earlier : first.Aside id mayAsk middle)
    (later : middle.Aside id mayAsk last) : first.Aside id mayAsk last := by
  obtain ⟨added, addedEvents, addedAsk⟩ := earlier.traced
  obtain ⟨more, moreEvents, moreAsk⟩ := later.traced
  refine ⟨later.standing.trans earlier.standing, later.critiques.trans earlier.critiques,
    added ++ more, ?_, ?_⟩
  · rw [moreEvents, addedEvents, List.append_assoc]
  · intro event member
    rcases List.mem_append.mp member with old | new
    · exact addedAsk event old
    · exact moreAsk event new

theorem World.Aside.shows {world : World} {events : List Event}
    (asks : ∀ event ∈ events, event.AsksOnly mayAsk) :
    world.Aside id mayAsk (world.shows events) :=
  ⟨rfl, rfl, events, rfl, asks⟩

theorem World.Aside.lines {world : World} {events : List Event} (lines : Cycle.AreLines events) :
    world.Aside id mayAsk (world.shows events) := by
  refine .shows fun event member => ?_
  obtain ⟨text, rfl⟩ := lines event member
  trivial

theorem World.Aside.logs {world : World} {entry : LogEntry} :
    world.Aside id mayAsk (world.logs entry) :=
  ⟨rfl, rfl, [], by simp, by simp⟩

theorem World.Aside.afterFailure {context : CycleContext} {step : String} {failure : Failure}
    {world : World} : world.Aside id mayAsk (Cycle.afterFailure context step failure world) := by
  refine .trans (.shows ?_) .logs
  simp [Event.AsksOnly]

namespace Run.IsAside

theorem aside {run : Run α} {world last : World} {result : Except Stop α}
    (goes : IsAside id mayAsk run) (ran : run world = (result, last)) :
    world.Aside id mayAsk last := by
  have same := goes world
  rwa [ran] at same

theorem pure (value : α) : IsAside id mayAsk (pure value : Run α) :=
  fun world => .refl world

theorem stop (reason : Stop) : IsAside id mayAsk (Run.stop reason : Run α) :=
  fun world => .refl world

theorem look (view : World → α) : IsAside id mayAsk (Run.look view) :=
  fun world => .refl world

theorem ofExcept (value : Except Stop α) : IsAside id mayAsk (Run.ofExcept value) := by
  intro world
  rw [Run.ofExcept_apply]
  exact .refl world

theorem ofFiles (value : Except FileFault α) : IsAside id mayAsk (Run.ofFiles value) :=
  ofExcept _

theorem bind {first : Run α} {next : α → Run β} (one : IsAside id mayAsk first)
    (two : ∀ value, IsAside id mayAsk (next value)) : IsAside id mayAsk (first >>= next) := by
  intro world
  rcases ran : (first >>= next) world with ⟨result, last⟩
  rcases Run.bind_cases ran with ⟨reason, stopped, -⟩ | ⟨value, after, begun, ended⟩
  · exact one.aside stopped
  · exact (one.aside begun).trans ((two value).aside ended)

theorem say (text : String) : IsAside id mayAsk (Run.say text) :=
  fun _ => .shows (by simp [Event.AsksOnly])

theorem warnAll (texts : List String) : IsAside id mayAsk (Run.warnAll texts) := by
  intro world
  rw [Run.warnAll_apply]
  exact .shows (by simp [Event.AsksOnly])

theorem session {work : Session α} (keeps : work.KeepsStanding id) :
    IsAside id mayAsk (Run.session work) := by
  intro world
  rcases ran : Run.session work world with ⟨result, last⟩
  rcases Run.session_cases ran with ⟨_, _, _, rfl⟩ | ⟨value, store, worked, _, rfl⟩
  · exact .refl _
  · exact ⟨(keeps worked).1, (keeps worked).2, [], by simp, by simp⟩

theorem changeFiles (change : Folder → Except FileFault Folder) :
    IsAside id mayAsk (Run.changeFiles change) := by
  intro world
  unfold Run.changeFiles
  split
  · exact ⟨rfl, rfl, [], by simp, by simp⟩
  · exact .refl world

theorem runProcess (spawn : ProcessResult → Spawn) :
    IsAside id mayAsk (Run.runProcess spawn) := by
  intro world
  rcases ran : Run.runProcess spawn world with ⟨result, last⟩
  obtain ⟨ending, -, store, -, events⟩ := Run.runProcess_cases ran
  exact ⟨by rw [store], by rw [store], _, events, by simp [Event.AsksOnly]⟩

theorem call {call : AgentCall} (asked : mayAsk call.role) (context : CycleContext)
    (accept : Folder → AgentAnswer → Bool) :
    IsAside id mayAsk (call.run context accept) := by
  intro world
  rcases ran : call.run context accept world with ⟨result, last⟩
  rcases AgentCall.run_leaves ran with ⟨-, rfl⟩ | ⟨⟨store, tried, attempts, events⟩, -⟩
  · exact .refl _
  · refine ⟨by rw [store], by rw [store], _, by rw [events, List.append_assoc], ?_⟩
    intro event member
    simp only [List.mem_append, List.mem_cons] at member
    rcases member with (rfl | tries) | ends
    · exact asked
    · exact AgentCall.IsAttempt.asksOnly asked (attempts event tries)
    · cases result with
      | ok answer =>
          rw [AgentCall.ending, List.mem_singleton] at ends
          subst ends
          exact asked
      | error reason => simp [AgentCall.ending] at ends

end Run.IsAside

/-! ### The steps of a cycle that are no critique -/

namespace Cycle

open Run

/-- The frame of a step only logs. -/
theorem runStep_isAside {context : CycleContext} {name : String} {body : Run (StepEnd α)}
    (goes : IsAside id mayAsk body) : IsAside id mayAsk (runStep context name body) := by
  intro world
  rcases ran : runStep context name body world with ⟨result, last⟩
  rcases runStep_cases ran with ⟨ending, after, begun, -, rfl⟩ |
    ⟨failure, after, begun, -, -, rfl⟩ | ⟨breakdown, reason, after, shown, begun, -, rfl, lines⟩
  · exact (World.Aside.logs.trans (goes.aside begun)).trans .logs
  · exact (World.Aside.logs.trans (goes.aside begun)).trans .afterFailure
  · exact (World.Aside.logs.trans (goes.aside begun)).trans (.lines lines)

/-- A step whose body stops adds at most its report, and no outcome of its own. -/
theorem runStep_of_error {context : CycleContext} {name : String} {body : Run (StepEnd α)}
    {world after last : World} {reason : Stop} {result : Except Stop (StepEnd α)}
    (stopped : body (world.logs (stepEvent context name "started")) = (.error reason, after))
    (ran : runStep context name body world = (result, last)) :
    (∀ id mayAsk, after.Aside id mayAsk last) ∧
      ((∃ reason, result = .error reason) ∨
        ∃ failure, result = .ok (.ended (.ofFailure name failure))) := by
  rcases runStep_cases ran with ⟨_, _, impossible, -⟩ | ⟨failure, _, same, -, rfl, rfl⟩ |
    ⟨breakdown, _, _, _, same, rfl, rfl, lines⟩
  · rw [stopped] at impossible
    cases impossible
  · rw [stopped] at same
    cases same
    exact ⟨fun _ _ => .afterFailure, .inr ⟨failure, rfl⟩⟩
  · rw [stopped] at same
    cases same
    exact ⟨fun _ _ => .lines lines, .inl ⟨_, rfl⟩⟩

theorem keepAction_keepsStanding (context : CycleContext) (action : String) :
    (keepAction context action).KeepsStanding id :=
  .bind (.modify (fun _ => rfl) fun _ => rfl) fun _ => .pure _

theorem keepSession_keepsStanding (context : CycleContext) (artifact : Artifact)
    (answer : AgentAnswer) : (keepSession context artifact answer).KeepsStanding id := by
  unfold keepSession
  split
  · cases sessionText answer.sessionId with
    | ok text => exact .bind (.modify (fun _ => rfl) fun _ => rfl) fun _ => .pure _
    | error stop =>
        intro store value last impossible
        cases impossible
  · exact .pure _

theorem warnOfUsage_isAside (step : String) (answer : AgentAnswer) :
    IsAside id mayAsk (warnOfUsage step answer) := by
  unfold warnOfUsage
  split
  · exact .warnAll _
  · exact .pure _

theorem putDocument_isAside (artifact : Artifact) (answer : AgentAnswer) :
    IsAside id mayAsk (putDocument artifact answer) := by
  unfold putDocument
  dsimp only
  split
  · exact .changeFiles _
  · exact .bind (.changeFiles _) fun _ => .stop _

theorem writeDocument_isAside (asked : mayAsk .generator) (context : CycleContext)
    (artifact : Artifact) : IsAside id mayAsk (writeDocument context artifact) := by
  unfold writeDocument
  refine .bind (.say _) fun _ => .bind (.look _) fun folder => .bind (.ofExcept _) fun prompt => ?_
  refine .bind (.call asked _ _) fun answer => .bind (.look _) fun after => ?_
  have rest : IsAside id mayAsk (do
      warnOfUsage ("generate:" ++ artifact.name) answer
      Run.session do
        let _ ← recordUsage context ("generate:" ++ artifact.name) answer
        let _ ← Session.load context.changeId
        keepSession context artifact answer
        keepAction context ("generated " ++ artifact.name)
      Run.say ("[green]✓ " ++ artifact.name ++ " written[/green]")) := by
    refine .bind (warnOfUsage_isAside _ _) fun _ => .bind (.session ?_) fun _ => .say _
    refine .bind (.recordUsage _ _ _) fun _ => .bind (.load _) fun _ => ?_
    exact .bind (keepSession_keepsStanding _ _ _) fun _ => keepAction_keepsStanding _ _
  dsimp only
  split
  · exact .bind (putDocument_isAside artifact answer) fun _ => rest
  · exact rest

theorem showSelfReview_isAside (artifact : Artifact) (verdict : Verdict) :
    IsAside id mayAsk (showSelfReview artifact verdict) := by
  unfold showSelfReview
  split
  · exact .bind (.warnAll [_]) fun _ => .say _
  · exact .say _
  · exact .say _

theorem keepReview_keepsStanding {kind : String} (other : kind ≠ ReviewEntry.critique)
    (context : CycleContext) (artifact : Artifact) (review : Review) (iteration : Int) :
    (keepReview context artifact kind review iteration).KeepsStanding id :=
  .bind (.addReview other) fun _ => .pure _

theorem selfReview_isAside (asked : mayAsk .generator) (context : CycleContext)
    (artifact : Artifact) : IsAside id mayAsk (selfReview context artifact) := by
  unfold selfReview
  refine .bind (.look _) fun folder => .bind (.call asked _ _) fun answer => ?_
  refine .bind (.warnAll _) fun _ => .bind (showSelfReview_isAside _ _) fun _ => ?_
  refine .bind (warnOfUsage_isAside _ _) fun _ => .session ?_
  refine .bind (.recordUsage _ _ _) fun _ => .bind (.load _) fun change => ?_
  exact .bind (.requireWhole _) fun _ => keepReview_keepsStanding (by decide) _ _ _ _

theorem generateMissing_isAside (asked : mayAsk .generator) (context : CycleContext)
    (artifact : Artifact) : IsAside id mayAsk (generateMissing context artifact) := by
  unfold generateMissing generate
  refine .bind (.look _) fun folder => ?_
  split
  · exact .say _
  · refine .bind (writeDocument_isAside asked context artifact) fun _ => ?_
    split
    · exact selfReview_isAside asked context artifact
    · exact .pure _

theorem generateAll_isAside (asked : mayAsk .generator) (context : CycleContext)
    (artifacts : List Artifact) : IsAside id mayAsk (generateAll context artifacts) := by
  induction artifacts with
  | nil => exact .pure _
  | cons artifact artifacts ih =>
      exact .bind (generateMissing_isAside asked context artifact) fun _ => ih

/-- Writing the missing documents leaves the standing alone and asks the generator only. -/
theorem generateStep_isAside (asked : mayAsk .generator) (context : CycleContext) :
    IsAside id mayAsk (generateStep context) := by
  refine runStep_isAside (.bind (generateMissing_isAside asked context _) fun _ => ?_)
  refine .bind (.look _) fun folder => .bind (.ofFiles _) fun required => ?_
  exact .bind (generateAll_isAside asked context _) fun _ => .pure _

theorem validated_isAside (context : CycleContext) : IsAside id mayAsk (validated context) :=
  .bind (.look _) fun _ => .bind (.warnAll _) fun _ => .ofExcept _

theorem showProblems_isAside (problems : List Problem) :
    IsAside id mayAsk (showProblems problems) := by
  induction problems with
  | nil => exact .pure _
  | cons problem problems ih => exact .bind (.say _) fun _ => ih

/-- The check of the structure leaves the standing alone and asks nobody. -/
theorem validateStep_isAside (context : CycleContext) :
    IsAside id mayAsk (validateStep context) := by
  refine runStep_isAside (.bind (validated_isAside context) fun validation => ?_)
  refine .bind (showProblems_isAside _) fun _ => ?_
  split
  · exact .stop _
  · exact .pure _

theorem conversationIndex_isAside (context : CycleContext) :
    IsAside id mayAsk (conversationIndex context) := by
  refine .bind (.session (.load _)) fun change => ?_
  split
  · exact .stop _
  · exact .bind (.runProcess _) fun _ => .ofExcept _

theorem revise_isAside (asked : mayAsk .generator) (context : CycleContext) (iteration : Nat)
    (review : Review) : IsAside id mayAsk (revise context iteration review) := by
  unfold revise
  refine .bind (conversationIndex_isAside context) fun index => .bind (.say _) fun _ => ?_
  refine .bind (.look _) fun folder => ?_
  split
  · exact .stop _
  · refine .bind (.call asked _ _) fun answer => .bind (warnOfUsage_isAside _ _) fun _ => ?_
    refine .session (.bind (.recordUsage _ _ _) fun _ => ?_)
    refine .bind (.modify (fun _ => rfl) fun _ => rfl) fun _ => ?_
    exact keepAction_keepsStanding _ _

/-- A revision leaves the standing alone and asks the generator only. -/
theorem reviseStep_isAside (asked : mayAsk .generator) (context : CycleContext)
    (iteration : Nat) (review : Review) :
    IsAside id mayAsk (reviseStep context iteration review) := by
  apply runStep_isAside
  split
  · exact .pure _
  · exact .bind (revise_isAside asked context iteration review) fun _ => .pure _

end Cycle

end

end PlanCycle
