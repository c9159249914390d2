/-
Module: PlanCycle.Proofs.Surroundings
Purpose: What agents and programs do depends on the files, the agents and the programs, not on the
  records or on what was shown before.
Main exports:
  World.framed, Run.IsLocal, AgentCall.run_isLocal, Surroundings, Surroundings.Gives,
  Surroundings.Gives.run
-/
import PlanCycle.Proofs.AgentCall

namespace PlanCycle

variable {α β : Type}

/-! ### Other records and an earlier trace -/

/-- A world with other records, in which more had happened before. -/
def World.framed (world : World) (store : Store) (events : List Event) : World :=
  { world with store, events := events ++ world.events }

/-- Whether a run does the same with any records and any earlier trace. -/
def Run.IsLocal (run : Run α) : Prop :=
  ∀ world store events,
    run (world.framed store events) = ((run world).1, (run world).2.framed store events)

namespace Run.IsLocal

theorem pure (value : α) : IsLocal (pure value : Run α) :=
  fun _ _ _ => rfl

theorem stop (reason : Stop) : IsLocal (Run.stop reason : Run α) :=
  fun _ _ _ => rfl

theorem ofExcept (value : Except Stop α) : IsLocal (Run.ofExcept value) := by
  intro world store events
  rw [Run.ofExcept_apply, Run.ofExcept_apply]

theorem look {view : World → α} (same : ∀ world store events, view (world.framed store events) =
    view world) : IsLocal (Run.look view) := by
  intro world store events
  rw [Run.look_apply, Run.look_apply, same]

theorem emit (event : Event) : IsLocal (Run.emit event) := by
  intro world store events
  rw [Run.emit_apply, Run.emit_apply]
  simp [World.framed, World.shows]

theorem relay (console : Console) (text : String) : IsLocal (Run.relay console text) := by
  unfold Run.relay
  split
  · exact emit _
  · exact stop _

theorem bind {first : Run α} {next : α → Run β} (one : IsLocal first)
    (two : ∀ value, IsLocal (next value)) : IsLocal (first >>= next) := by
  intro world store events
  have framed := one world store events
  rcases ran : first world with ⟨reason | value, after⟩
  · rw [ran] at framed
    rw [Run.bind_of_error framed, Run.bind_of_error ran]
  · rw [ran] at framed
    rw [Run.bind_of_ok framed, Run.bind_of_ok ran]
    exact two value after store events

theorem attempt {run : Run α} (isLocal : IsLocal run) : IsLocal run.attempt := by
  intro world store events
  have framed := isLocal world store events
  unfold Run.attempt
  rcases ran : run world with ⟨(failure | breakdown) | value, after⟩
  · rw [ran] at framed
    rw [framed]
  · rw [ran] at framed
    rw [framed]
  · rw [ran] at framed
    rw [framed]

theorem applyEdits (edits : List FileEdit) : IsLocal (Run.applyEdits edits) :=
  fun _ _ _ => rfl

theorem runProcess (spawn : ProcessResult → Spawn) : IsLocal (Run.runProcess spawn) := by
  intro world store events
  unfold Run.runProcess
  cases scripts : world.processes.scripts with
  | nil => simp [World.framed, scripts]
  | cons script others => simp [World.framed, scripts]

end Run.IsLocal

namespace AgentCall

theorem invoke_isLocal (call : AgentCall) (root : Path) : (call.invoke root).IsLocal := by
  unfold invoke
  refine .bind (.look fun _ _ _ => rfl) fun files => .bind (.emit _) fun _ => ?_
  refine .bind (.look fun _ _ _ => rfl) fun agent => ?_
  cases agent with
  | ready first others =>
      exact .bind (fun _ _ _ => rfl) fun _ => .bind (.applyEdits _) fun _ => .ofExcept _
  | program setup =>
      exact .bind (.ofExcept _) fun _ => .bind (.runProcess _) fun _ => .ofExcept _

theorem tryOnce_isLocal (call : AgentCall) (root : Path)
    (accept : Folder → AgentAnswer → Bool) : (call.tryOnce root accept).IsLocal := by
  unfold tryOnce
  refine .bind (call.invoke_isLocal root) fun answer => .bind (.look fun _ _ _ => rfl) ?_
  intro files
  refine .bind (.emit _) fun _ => ?_
  split
  · exact .pure _
  · exact .stop _

theorem tries_isLocal (call : AgentCall) (context : CycleContext)
    (accept : Folder → AgentAnswer → Bool) (left : Nat) :
    (call.tries context accept left).IsLocal := by
  induction left with
  | zero => exact .stop _
  | succ left ih =>
      refine .bind (.attempt (call.tryOnce_isLocal context.root accept)) fun outcome => ?_
      cases outcome with
      | ok answer => exact .pure _
      | error failure =>
          dsimp only
          split
          · split
            · exact .stop _
            · exact .bind (.relay _ _) fun _ => ih
          · exact .stop _

/-- A call does the same with any records and any earlier trace. -/
theorem run_isLocal (call : AgentCall) (context : CycleContext)
    (accept : Folder → AgentAnswer → Bool) : (call.run context accept).IsLocal :=
  call.tries_isLocal context accept _

end AgentCall

/-! ### Surroundings -/

/-- What agents and programs meet and change: the files, the agents and the programs to come. -/
structure Surroundings where
  files : Folder
  agents : Role → Agent
  processes : Processes

/-- The surroundings in a world. -/
def World.surroundings (world : World) : Surroundings :=
  ⟨world.files, world.agents, world.processes⟩

/-- A world with the given surroundings, records and trace. -/
def Surroundings.world (surroundings : Surroundings) (store : Store) (events : List Event) :
    World :=
  ⟨surroundings.files, store, surroundings.agents, surroundings.processes, events⟩

@[simp] theorem Surroundings.world_surroundings (world : World) :
    world.surroundings.world world.store world.events = world := rfl

theorem Surroundings.logs_world (surroundings : Surroundings) (store : Store)
    (events : List Event) (entry : LogEntry) :
    (surroundings.world store events).logs entry =
      surroundings.world (store.logged entry) events := rfl

theorem Surroundings.shows_world (surroundings : Surroundings) (store : Store)
    (events more : List Event) :
    (surroundings.world store events).shows more = surroundings.world store (events ++ more) := rfl

/-- Whether a run gives a value in some surroundings and leaves others. -/
def Surroundings.Gives (before : Surroundings) (run : Run α) (value : α) (after : Surroundings) :
    Prop :=
  ∃ last, run (before.world {} []) = (.ok value, last) ∧ last.surroundings = after

/-- What a run gives in its surroundings it gives with any records and any earlier trace. -/
theorem Surroundings.Gives.run {before after : Surroundings} {run : Run α} {value : α}
    (gives : before.Gives run value after) (isLocal : run.IsLocal) (store : Store)
    (events : List Event) :
    ∃ added, run (before.world store events) =
      (.ok value, after.world store (events ++ added)) := by
  obtain ⟨last, ran, rfl⟩ := gives
  have framed := isLocal (before.world {} []) store events
  rw [ran] at framed
  refine ⟨last.events, Eq.trans ?_ framed⟩
  simp [Surroundings.world, World.framed]

/-- The surroundings after an agent gave the first of the answers that it has ready. -/
def Surroundings.answered (before : Surroundings) (role : Role) (first : Reply)
    (others : List Reply) : Surroundings where
  files := before.files.edited first.edits
  agents := AgentCall.withAgent role (AgentCall.afterFirst first others) before.agents
  processes := before.processes

/-- An agent gives the answer that it has ready, at the first attempt, if that is accepted. -/
theorem Surroundings.gives_ready {before : Surroundings} {call : AgentCall}
    {context : CycleContext} {accept : Folder → AgentAnswer → Bool} {answer : AgentAnswer}
    {first : Reply} {others : List Reply}
    (ready : before.agents call.role = .ready first others) (given : first.answer = .ok answer)
    (accepted : accept (before.files.edited first.edits) answer = true)
    (attempts : 1 ≤ context.policy.attempts) :
    before.Gives (call.run context accept) answer (before.answered call.role first others) := by
  obtain ⟨left, count⟩ : ∃ left, context.policy.attempts = left + 1 :=
    Nat.exists_eq_add_of_le' attempts
  have invoked : ∃ last, call.invoke context.root (before.world {} []) = (.ok answer, last) ∧
      last.surroundings = before.answered call.role first others := by
    refine ⟨((before.answered call.role first others).world {} [.asked call before.files]), ?_, rfl⟩
    unfold AgentCall.invoke
    rw [Run.bind_of_ok (Run.look_apply _ _), Run.bind_of_ok (Run.emit_apply _ _),
      Run.bind_of_ok (Run.look_apply _ _)]
    have agent : ((before.world {} []).shows [.asked call (before.world {} []).files]).agents
        call.role = .ready first others := ready
    rw [agent]
    dsimp only
    unfold AgentCall.askReady
    rw [given]
    rfl
  obtain ⟨asked, invoked, after⟩ := invoked
  have tried : call.tryOnce context.root accept (before.world {} []) =
      (.ok answer, asked.shows [.answered call answer true asked.files]) := by
    have files : asked.files = before.files.edited first.edits := congrArg Surroundings.files after
    unfold AgentCall.tryOnce
    rw [Run.bind_of_ok invoked, Run.bind_of_ok (Run.look_apply _ _), files, accepted]
    rfl
  refine ⟨asked.shows [.answered call answer true asked.files], ?_, after⟩
  unfold AgentCall.run
  rw [count, AgentCall.tries]
  have attempted : Run.attempt (call.tryOnce context.root accept) (before.world {} []) =
      (.ok (.ok answer), asked.shows [.answered call answer true asked.files]) := by
    unfold Run.attempt
    rw [tried]
  rw [Run.bind_of_ok attempted]
  rfl

end PlanCycle
