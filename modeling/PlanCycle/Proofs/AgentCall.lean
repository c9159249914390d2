/-
Module: PlanCycle.Proofs.AgentCall
Purpose: What a call of an agent leaves behind: no change of the records, and a trace of attempts
  that ends with an accepted answer exactly if the call gives one.
Main exports:
  AgentCall.IsAttempt, AgentCall.Leaves, AgentCall.run_leaves
-/
import PlanCycle.Proofs.Execution

namespace PlanCycle

/-- What an attempt at a call may leave in the trace. -/
def AgentCall.IsAttempt (call : AgentCall) : Event → Prop
  | .asked asked _ => asked = call
  | .answered asked _ accepted _ => asked = call ∧ accepted = false
  | .ran _ _ | .line _ => True
  | _ => False

/-- What the end of a call leaves in the trace. -/
def AgentCall.ending (call : AgentCall) (after : World) : Except Stop AgentAnswer → List Event
  | .ok answer => [.answered call answer true after.files]
  | .error _ => []

/-- A call leaves the records as they are.  In the trace it leaves its question, what its attempts
leave, and the answer if one is accepted. -/
structure AgentCall.Leaves (call : AgentCall) (before : World) (result : Except Stop AgentAnswer)
    (after : World) : Prop where
  store : after.store = before.store
  traced : ∃ tried, (∀ event ∈ tried, call.IsAttempt event) ∧
    after.events =
      before.events ++ .asked call before.files :: tried ++ call.ending after result

namespace AgentCall

/-- An agent with an answer ready gives it, and what it does to the files is done. -/
theorem askReady_apply (call : AgentCall) (first : Reply) (others : List Reply) (world : World) :
    call.askReady first others world =
      (first.answer,
        { world with
          agents := withAgent call.role (afterFirst first others) world.agents
          files := world.files.edited first.edits }) := by
  unfold askReady
  refine (Run.bind_of_ok rfl).trans ?_
  rw [Run.bind_of_ok (Run.applyEdits_apply _ _), Run.ofExcept_apply]

/-- A question is answered by what was ready, or by the run of a program; or there is no command
line for the program. -/
theorem invoke_cases {call : AgentCall} {root : Path} {world last : World}
    {result : Except Stop AgentAnswer} (ran : call.invoke root world = (result, last)) :
    (∃ first others, world.agents call.role = .ready first others ∧
      result = first.answer ∧ last.store = world.store ∧
      last.events = world.events ++ [.asked call world.files]) ∨
    (∃ setup fault, world.agents call.role = .program setup ∧
      setup.words call.resume = .error fault ∧ result = .error (.ofCommand fault) ∧
      last = world.shows [.asked call world.files]) ∨
    ∃ setup words ending, world.agents call.role = .program setup ∧
      setup.words call.resume = .ok words ∧ result = call.resultOf setup words ending ∧
      last.store = world.store ∧
      last.events = world.events ++
        [.asked call world.files,
          .ran (AgentSetup.spawn root words call.input? call.environment ending) ending] := by
  unfold invoke at ran
  rw [Run.bind_of_ok (Run.look_apply _ world),
    Run.bind_of_ok (Run.emit_apply (.asked call world.files) world),
    Run.bind_of_ok (Run.look_apply _ _)] at ran
  cases agent : world.agents call.role with
  | ready first others =>
      simp only [World.agents_shows, agent] at ran
      rw [askReady_apply] at ran
      obtain ⟨rfl, rfl⟩ := Prod.mk.inj ran
      exact .inl ⟨first, others, rfl, rfl, rfl, rfl⟩
  | program setup =>
      simp only [World.agents_shows, agent] at ran
      unfold askProgram at ran
      refine .inr ?_
      cases worded : setup.words call.resume with
      | error fault =>
          have refused : (setup.words call.resume).mapError Stop.ofCommand =
              .error (.ofCommand fault) := by
            rw [worded]
            rfl
          rw [refused, Run.bind_of_error (Run.ofExcept_apply _ _)] at ran
          cases ran
          exact .inl ⟨setup, fault, rfl, worded, rfl, rfl⟩
      | ok words =>
          have given : (setup.words call.resume).mapError Stop.ofCommand = .ok words := by
            rw [worded]
            rfl
          rw [given, Run.bind_of_ok (Run.ofExcept_apply _ _)] at ran
          rcases Run.bind_cases ran with ⟨_, stopped, _⟩ | ⟨ending, _, ended, ran⟩
          · obtain ⟨_, impossible, _⟩ := Run.runProcess_cases stopped
            cases impossible
          · obtain ⟨_, same, store, _, events⟩ := Run.runProcess_cases ended
            cases same
            rw [Run.ofExcept_apply] at ran
            cases ran
            exact .inr ⟨setup, words, ending, rfl, worded, rfl, store, by simpa using events⟩

/-- One question leaves itself and at most the run of one program in the trace. -/
theorem invoke_traced {call : AgentCall} {root : Path} {world last : World}
    {result : Except Stop AgentAnswer} (ran : call.invoke root world = (result, last)) :
    last.store = world.store ∧
      ∃ tried, (∀ event ∈ tried, ∃ spawn ending, event = .ran spawn ending) ∧
        last.events = world.events ++ .asked call world.files :: tried := by
  rcases invoke_cases ran with
    ⟨_, _, _, _, store, events⟩ | ⟨_, _, _, _, _, rfl⟩ | ⟨_, _, _, _, _, _, store, events⟩
  · exact ⟨store, [], by simp, events⟩
  · exact ⟨rfl, [], by simp, rfl⟩
  · refine ⟨store, [.ran _ _], ?_, events⟩
    intro event member
    exact ⟨_, _, List.mem_singleton.mp member⟩

/-- The run of a program may be left by an attempt. -/
theorem IsAttempt.of_ran {call : AgentCall} {event : Event}
    (ran : ∃ spawn ending, event = .ran spawn ending) : call.IsAttempt event := by
  obtain ⟨spawn, ending, rfl⟩ := ran
  trivial

/-- One try leaves its question first and its answer, if that is accepted, last. -/
theorem tryOnce_leaves {call : AgentCall} {root : Path} {accept : Folder → AgentAnswer → Bool}
    {world last : World} {result : Except Stop AgentAnswer}
    (ran : call.tryOnce root accept world = (result, last)) :
    call.Leaves world result last ∧
      ∀ answer, result = .ok answer → accept last.files answer = true := by
  unfold tryOnce at ran
  rcases Run.bind_cases ran with ⟨reason, stopped, rfl⟩ | ⟨answer, after, invoked, ran⟩
  · obtain ⟨store, tried, runs, events⟩ := invoke_traced stopped
    refine ⟨⟨store, tried, fun event member => .of_ran (runs event member),
      by simpa [ending] using events⟩, ?_⟩
    intro answer impossible
    cases impossible
  · obtain ⟨store, tried, runs, events⟩ := invoke_traced invoked
    have attempts : ∀ event ∈ tried, call.IsAttempt event :=
      fun event member => .of_ran (runs event member)
    rw [Run.bind_of_ok (Run.look_apply _ after),
      Run.bind_of_ok (Run.emit_apply _ after)] at ran
    cases accepted : accept after.files answer with
    | true =>
        simp only [accepted, if_true] at ran
        cases ran
        refine ⟨⟨store, tried, attempts, by simp [ending, events]⟩, ?_⟩
        intro other same
        cases same
        exact accepted
    | false =>
        simp only [accepted, Bool.false_eq_true, if_false] at ran
        cases ran
        refine ⟨⟨store, tried ++ [.answered call answer false after.files], ?_,
          by simp [ending, events]⟩, ?_⟩
        · intro event member
          rcases List.mem_append.mp member with old | new
          · exact attempts event old
          · rw [List.mem_singleton] at new
            subst new
            exact ⟨rfl, rfl⟩
        · intro other impossible
          cases impossible

/-- More attempts after one that failed belong to the same call. -/
theorem Leaves.retried {call : AgentCall} {before failed last : World} {reason : Stop}
    {result : Except Stop AgentAnswer} {line : String}
    (first : call.Leaves before (.error reason) failed)
    (later : call.Leaves (failed.shows [.line line]) result last) :
    call.Leaves before result last := by
  obtain ⟨store, tried, attempts, events⟩ := first
  obtain ⟨laterStore, more, moreAttempts, moreEvents⟩ := later
  refine ⟨laterStore.trans store, tried ++ .line line :: .asked call failed.files :: more,
    ?_, ?_⟩
  · intro event member
    simp only [List.mem_append, List.mem_cons] at member
    rcases member with old | rfl | rfl | new
    · exact attempts event old
    · trivial
    · rfl
    · exact moreAttempts event new
  · simp [moreEvents, events, ending]

/-- A try ends the call, or it fails and ends it, or it fails and is followed by a line and the
other tries. -/
theorem tries_cases {call : AgentCall} {context : CycleContext}
    {accept : Folder → AgentAnswer → Bool} {left : Nat} {world last : World}
    {result : Except Stop AgentAnswer}
    (ran : call.tries context accept (left + 1) world = (result, last)) :
    call.tryOnce context.root accept world = (result, last) ∨
      ∃ failure after, call.tryOnce context.root accept world = (.error (.failure failure), after) ∧
        (((∃ reason, result = .error reason) ∧ last = after) ∨
          left ≠ 0 ∧ ∃ line, call.tries context accept left (after.shows [.line line]) =
            (result, last)) := by
  unfold tries at ran
  rcases Run.bind_cases ran with ⟨reason, stopped, rfl⟩ | ⟨outcome, after, tried, ran⟩
  · rcases Run.attempt_cases stopped with
      ⟨_, _, impossible⟩ | ⟨_, _, impossible⟩ | ⟨breakdown, once, same⟩
    · cases impossible
    · cases impossible
    · cases same
      exact .inl once
  · rcases Run.attempt_cases tried with
      ⟨answer, once, same⟩ | ⟨failure, once, same⟩ | ⟨_, _, impossible⟩
    · cases same
      cases ran
      exact .inl once
    · cases same
      refine .inr ⟨failure, after, once, ?_⟩
      dsimp only at ran
      split at ran
      · split at ran
        · cases ran
          exact .inl ⟨⟨_, rfl⟩, rfl⟩
        · rename_i more
          rcases Run.bind_cases ran with ⟨_, refused, rfl⟩ | ⟨_, _, shown, ran⟩
          · rcases Run.relay_cases refused with ⟨-, impossible, -⟩ | ⟨-, -, rfl⟩
            · cases impossible
            · exact .inl ⟨⟨_, rfl⟩, rfl⟩
          · rcases Run.relay_cases shown with ⟨-, -, rfl⟩ | ⟨-, impossible, -⟩
            · exact .inr ⟨more, _, ran⟩
            · cases impossible
      · cases ran
        exact .inl ⟨⟨_, rfl⟩, rfl⟩
    · cases impossible

/-- All attempts of a call together leave what one call leaves. -/
theorem tries_leaves {call : AgentCall} {context : CycleContext}
    {accept : Folder → AgentAnswer → Bool} {left : Nat} {world last : World}
    {result : Except Stop AgentAnswer}
    (ran : call.tries context accept (left + 1) world = (result, last)) :
    call.Leaves world result last ∧
      ∀ answer, result = .ok answer → accept last.files answer = true := by
  induction left generalizing world with
  | zero =>
      rcases tries_cases ran with once | ⟨failure, after, once, ended | ⟨impossible, _⟩⟩
      · exact tryOnce_leaves once
      · obtain ⟨⟨reason, rfl⟩, rfl⟩ := ended
        obtain ⟨store, traced⟩ := (tryOnce_leaves once).1
        exact ⟨⟨store, traced⟩, fun _ impossible => by cases impossible⟩
      · exact absurd rfl impossible
  | succ left ih =>
      rcases tries_cases ran with once | ⟨failure, after, once, ended | ⟨_, line, rest⟩⟩
      · exact tryOnce_leaves once
      · obtain ⟨⟨reason, rfl⟩, rfl⟩ := ended
        obtain ⟨store, traced⟩ := (tryOnce_leaves once).1
        exact ⟨⟨store, traced⟩, fun _ impossible => by cases impossible⟩
      · obtain ⟨later, accepted⟩ := ih rest
        exact ⟨(tryOnce_leaves once).1.retried later, accepted⟩

/-- A call leaves its attempts, unless the policy allows none. -/
theorem run_leaves {call : AgentCall} {context : CycleContext}
    {accept : Folder → AgentAnswer → Bool} {world last : World}
    {result : Except Stop AgentAnswer} (ran : call.run context accept world = (result, last)) :
    (result = .error (.breakdown .noAttempt) ∧ last = world) ∨
      call.Leaves world result last ∧
        ∀ answer, result = .ok answer → accept last.files answer = true := by
  unfold run at ran
  cases allowed : context.policy.attempts with
  | zero =>
      rw [allowed] at ran
      cases ran
      exact .inl ⟨rfl, rfl⟩
  | succ left =>
      rw [allowed] at ran
      exact .inr (tries_leaves ran)

/-- No call changes the records. -/
theorem store_run {call : AgentCall} {context : CycleContext}
    {accept : Folder → AgentAnswer → Bool} {world last : World}
    {result : Except Stop AgentAnswer} (ran : call.run context accept world = (result, last)) :
    last.store = world.store := by
  rcases run_leaves ran with ⟨-, rfl⟩ | ⟨leaves, -⟩
  · rfl
  · exact leaves.store

end AgentCall

end PlanCycle
