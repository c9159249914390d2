/-
Module: PlanCycle.Proofs.Attempts
Purpose: How often an agent is asked: until an attempt settles the call, at most one time more than
  the retries that are allowed, and with one line about each failure that another attempt follows.
Main exports:
  AgentCall.Settles, AgentCall.Fails, AgentCall.Retries, AgentCall.Asked,
  AgentCall.Retries.exhausted, AgentCall.Retries.refused, AgentCall.asked_until_settled
-/
import PlanCycle.Proofs.AgentCall

namespace PlanCycle

/-!
An attempt settles a call or it fails, by what the agent does then.  A call is then determined by
the attempts that fail in a row from its start: the attempt after them is its last one if it
settles the call, or if as many failed before as the policy allows retries.  Between two attempts
a line is shown with the message of a failure, and the console has to make sense of it.
-/

/-- The question of an event, if it is one. -/
def Event.question? : Event → Option AgentCall
  | .asked call _ => some call
  | _ => none

/-- The line that an event shows, if it shows one. -/
def Event.shownLine? : Event → Option String
  | .line text => some text
  | _ => none

/-- The run of a program that gives no answer is a failure of the agent, or it breaks down. -/
theorem AgentSetup.answer_error {setup : AgentSetup} {words : List String} {ending : ProcessResult}
    {reason : Stop} (unanswered : setup.answer words ending = .error reason) :
    (∃ status stderr, reason = .failure (.invocation status stderr)) ∨
      ∃ breakdown, reason = .breakdown breakdown := by
  cases ending with
  | unstartable cause =>
      cases unanswered
      exact .inl ⟨_, _, rfl⟩
  | timedOut =>
      cases unanswered
      exact .inl ⟨_, _, rfl⟩
  | exited status stdout stderr =>
      simp only [answer] at unanswered
      split at unanswered
      · cases unanswered
        exact .inl ⟨_, _, rfl⟩
      · cases read : setup.answerOf stdout with
        | ok answer =>
            rw [read] at unanswered
            cases unanswered
        | error fault =>
            rw [read] at unanswered
            cases unanswered
            exact .inr ⟨_, rfl⟩

/-! ### Numbers without marks -/

section
open Json Number

theorem unmarked_of_digits {digits : List Char} (areDigits : AreDigits digits) : '[' ∉ digits :=
  fun member => absurd (areDigits _ member) (by decide)

theorem areDigits_shortestDigits (mantissa : Nat) (exponent : Int) :
    AreDigits (Binary64.shortestDigits mantissa exponent).1 := by
  unfold Binary64.shortestDigits
  split
  · simp [AreDigits]
  · intro c member
    have written := (List.dropWhile_suffix _).subset (List.mem_reverse.mp member)
    exact isDigit_of_mem_digitsOf (List.mem_reverse.mp written)

theorem positionalText_unmarked {digits : List Char} (unmarked : '[' ∉ digits) (point : Int) :
    '[' ∉ Binary64.positionalText digits point := by
  have zeros (n : Nat) : '[' ∉ List.replicate n '0' := by simp
  have whole : '[' ∉ digits.take point.natAbs :=
    fun member => unmarked (List.mem_of_mem_take member)
  have fraction : '[' ∉ digits.drop point.natAbs :=
    fun member => unmarked (List.mem_of_mem_drop member)
  unfold Binary64.positionalText
  split
  · simp [zeros, unmarked]
  · dsimp only
    split <;> simp [whole, fraction, zeros]

theorem exponentText_unmarked (n : Int) : '[' ∉ Binary64.exponentText n := by
  have digits : '[' ∉ (toString n.natAbs).toList := unmarked_of_digits (areDigits_digitsOf _)
  unfold Binary64.exponentText
  generalize (toString n.natAbs).toList = written at *
  dsimp only
  split <;> simp [digits]

theorem scientificText_unmarked {digits : List Char} (unmarked : '[' ∉ digits) (point : Int) :
    '[' ∉ Binary64.scientificText digits point := by
  unfold Binary64.scientificText
  split <;> simp_all [exponentText_unmarked]

theorem floatText_unmarked (x : Binary64) : IsUnmarked (x.text .plain) := by
  unfold IsUnmarked
  cases x with
  | nan => decide
  | infinite negative => cases negative <;> decide
  | finite negative mantissa power =>
      have digits := unmarked_of_digits (areDigits_shortestDigits mantissa power)
      unfold Binary64.text
      dsimp only
      rw [String.toList_ofList, List.mem_append, not_or]
      refine ⟨by cases negative <;> simp, ?_⟩
      split
      · exact positionalText_unmarked digits _
      · exact scientificText_unmarked digits _

end

namespace AgentCall

section
variable (call : AgentCall) (root : Path) (accept : Folder → AgentAnswer → Bool) (world : World)

/-- An attempt that ends the call: its answer is accepted, or what stops it is no failure of the
agent to give one. -/
inductive Settles : Except Stop AgentAnswer → World → Prop
  | accepted {answer : AgentAnswer} {after : World}
      (answered : call.invoke root world = (.ok answer, after))
      (good : accept after.files answer = true) :
      Settles (.ok answer) (after.shows [.answered call answer true after.files])
  | stopped {reason : Stop} {after : World}
      (stopped : call.invoke root world = (.error reason, after))
      (called : ∀ status stderr, reason ≠ .failure (.invocation status stderr))
      (filled : ∀ step, reason ≠ .failure (.emptyAnswer step)) :
      Settles (.error reason) after

/-- An attempt that may be followed by another one: its answer is rejected, or the agent fails, or
the agent itself finds its answer empty. -/
inductive Fails : Failure → World → Prop
  | rejected {answer : AgentAnswer} {after : World}
      (answered : call.invoke root world = (.ok answer, after))
      (bad : accept after.files answer = false) :
      Fails (.emptyAnswer call.step) (after.shows [.answered call answer false after.files])
  | failed {status : Option Int} {stderr : String} {after : World}
      (failed : call.invoke root world = (.error (.failure (.invocation status stderr)), after)) :
      Fails (.invocation status stderr) after
  | empty {step : String} {after : World}
      (failed : call.invoke root world = (.error (.failure (.emptyAnswer step)), after)) :
      Fails (.emptyAnswer step) after

end

/-- Attempts that fail in a row, each followed by the line about its failure, which the console
takes. -/
inductive Retries (call : AgentCall) (context : CycleContext)
    (accept : Folder → AgentAnswer → Bool) (start : World) : List Failure → World → Prop
  | none : Retries call context accept start [] start
  | more {failures : List Failure} {failure : Failure} {world after : World}
      (earlier : Retries call context accept start failures world)
      (fails : call.Fails context.root accept world failure after)
      (taken : context.console.takes
        (call.retryLine context.policy (failures.length + 1) failure) = true) :
      Retries call context accept start (failures ++ [failure])
        (after.shows [.line (call.retryLine context.policy (failures.length + 1) failure)])

/-- The lines about failures, numbered from one. -/
def retryLines (call : AgentCall) (policy : CyclePolicy) (failures : List Failure) :
    List String :=
  failures.mapIdx fun earlier failure => call.retryLine policy (earlier + 1) failure

/-- What is left in the trace by so many questions, all of them the same, and by lines about
failures. -/
structure Asked (call : AgentCall) (policy : CyclePolicy) (times : Nat) (failures : List Failure)
    (before after : World) : Prop where
  traced : ∃ added, after.events = before.events ++ added ∧
    added.filterMap Event.question? = .replicate times call ∧
    added.filterMap Event.shownLine? = call.retryLines policy failures

variable {call : AgentCall} {context : CycleContext} {root : Path}
  {accept : Folder → AgentAnswer → Bool} {start world last : World}

/-! ### One attempt -/

/-- An agent with an answer ready gives that answer. -/
theorem invoke_of_ready {first : Reply} {others : List Reply}
    (ready : world.agents call.role = .ready first others) :
    (call.invoke root world).1 = first.answer := by
  have asked : call.invoke root world = ((call.invoke root world).1, (call.invoke root world).2) :=
    rfl
  rcases invoke_cases asked with
    ⟨_, _, same, given, _⟩ | ⟨_, _, other, _⟩ | ⟨_, _, _, other, _⟩
  · rw [ready] at same
    cases same
    exact given
  · rw [ready] at other
    cases other
  · rw [ready] at other
    cases other

/-- An attempt settles the call or fails. -/
theorem settles_or_fails (call : AgentCall) (root : Path) (accept : Folder → AgentAnswer → Bool)
    (world : World) :
    (∃ result last, call.Settles root accept world result last) ∨
      ∃ failure last, call.Fails root accept world failure last := by
  rcases ended : call.invoke root world with ⟨_ | answer, after⟩
  · rename_i reason
    by_cases agentFailed : ∃ status stderr, reason = .failure (.invocation status stderr)
    · obtain ⟨status, stderr, rfl⟩ := agentFailed
      exact .inr ⟨_, _, .failed ended⟩
    by_cases foundEmpty : ∃ step, reason = .failure (.emptyAnswer step)
    · obtain ⟨step, rfl⟩ := foundEmpty
      exact .inr ⟨_, _, .empty ended⟩
    · exact .inl ⟨_, _, .stopped ended
        (fun status stderr same => agentFailed ⟨status, stderr, same⟩)
        fun step same => foundEmpty ⟨step, same⟩⟩
  · cases judged : accept after.files answer with
    | true => exact .inl ⟨_, _, .accepted ended judged⟩
    | false => exact .inr ⟨_, _, .rejected ended judged⟩

/-- A failure that settles a call is none after which it is asked again. -/
theorem isRetried_of_settled {failure : Failure}
    (called : ∀ status stderr, Stop.failure failure ≠ .failure (.invocation status stderr))
    (filled : ∀ step, Stop.failure failure ≠ .failure (.emptyAnswer step)) :
    isRetried failure = false := by
  unfold isRetried
  split
  · exact absurd rfl (called _ _)
  · exact absurd rfl (filled _)
  · rfl

theorem Settles.tryOnce {result : Except Stop AgentAnswer}
    (settles : call.Settles root accept world result last) :
    call.tryOnce root accept world = (result, last) := by
  unfold AgentCall.tryOnce
  cases settles with
  | accepted answered good =>
      rw [Run.bind_of_ok answered, Run.bind_of_ok (Run.look_apply _ _),
        Run.bind_of_ok (Run.emit_apply _ _)]
      simp [good]
  | stopped stopped _ _ => exact Run.bind_of_error stopped

theorem Fails.tryOnce {failure : Failure} (fails : call.Fails root accept world failure last) :
    call.tryOnce root accept world = (.error (.failure failure), last) := by
  unfold AgentCall.tryOnce
  cases fails with
  | rejected answered bad =>
      rw [Run.bind_of_ok answered, Run.bind_of_ok (Run.look_apply _ _),
        Run.bind_of_ok (Run.emit_apply _ _)]
      simp [bad]
  | failed failed => exact Run.bind_of_error failed
  | empty failed => exact Run.bind_of_error failed

theorem Fails.isRetried {failure : Failure} (fails : call.Fails root accept world failure last) :
    isRetried failure = true := by
  cases fails <;> rfl

/-! ### The attempts of a call -/

/-- An attempt that settles the call is the last one, however many are left. -/
theorem Settles.tries {result : Except Stop AgentAnswer}
    (settles : call.Settles context.root accept world result last) (left : Nat) :
    call.tries context accept (left + 1) world = (result, last) := by
  have tried := settles.tryOnce
  unfold AgentCall.tries
  cases settles with
  | @accepted answer after _ _ =>
      have attempted : Run.attempt (call.tryOnce context.root accept) world =
          (.ok (.ok answer), after.shows [.answered call answer true after.files]) := by
        simp only [Run.attempt, tried]
      exact Run.bind_of_ok attempted
  | @stopped reason _ stopped called filled =>
      cases reason with
      | breakdown breakdown =>
          refine Run.bind_of_error ?_
          simp only [Run.attempt, tried]
      | failure failure =>
          have final := isRetried_of_settled called filled
          have attempted : Run.attempt (call.tryOnce context.root accept) world =
              (.ok (.error failure), last) := by
            simp only [Run.attempt, tried]
          rw [Run.bind_of_ok attempted]
          simp [final]

/-- After a failure the last attempt gives up, and any other one is followed by a line and by the
attempts that are left, unless the console refuses the line. -/
theorem Fails.tries {failure : Failure}
    (fails : call.Fails context.root accept world failure last) (left : Nat) :
    call.tries context accept (left + 1) world =
      if left = 0 then
        (.error (.failure (.retriesExhausted call.step context.policy.attempts failure)), last)
      else
        let line := call.retryLine context.policy (context.policy.attempts - left) failure
        if context.console.takes line then
          call.tries context accept left (last.shows [.line line])
        else (.error (.breakdown .markup), last) := by
  have attempted : Run.attempt (call.tryOnce context.root accept) world =
      (.ok (.error failure), last) := by
    simp only [Run.attempt, fails.tryOnce]
  rw [AgentCall.tries, Run.bind_of_ok attempted]
  simp only [fails.isRetried, if_true]
  split
  · rfl
  · split
    · rename_i taken
      exact Run.bind_of_ok (Run.relay_of_taken taken last)
    · rename_i refused
      exact Run.bind_of_error (Run.relay_of_refused (by simpa using refused) last)

/-- A call goes on from where the attempts that failed in a row have brought it. -/
theorem Retries.run {failures : List Failure} {left : Nat}
    (retries : call.Retries context accept start failures world)
    (attempts : context.policy.attempts = failures.length + (left + 1)) :
    call.run context accept start = call.tries context accept (left + 1) world := by
  induction retries generalizing left with
  | none =>
      rw [AgentCall.run, attempts]
      simp
  | @more failures failure world after earlier fails taken ih =>
      rw [List.length_append, List.length_singleton] at attempts
      have before : context.policy.attempts = failures.length + (left + 1 + 1) := by omega
      have number : context.policy.attempts - (left + 1) = failures.length + 1 := by omega
      rw [ih before, fails.tries, if_neg (by omega), number]
      exact if_pos taken

/-! ### What the attempts leave in the trace -/

namespace Asked

variable {policy : CyclePolicy} {times : Nat} {failures : List Failure}

theorem refl (call : AgentCall) (policy : CyclePolicy) (world : World) :
    call.Asked policy 0 [] world world :=
  ⟨[], by simp, rfl, rfl⟩

/-- A question asked once more, without a line. -/
theorem again (asked : call.Asked policy times failures start world)
    (once : call.Asked policy 1 [] world last) :
    call.Asked policy (times + 1) failures start last := by
  obtain ⟨added, events, questions, lines⟩ := asked
  obtain ⟨more, moreEvents, moreQuestions, noLines⟩ := once
  refine ⟨added ++ more, by rw [moreEvents, events, List.append_assoc], ?_, ?_⟩
  · rw [List.filterMap_append, questions, moreQuestions, List.replicate_append_replicate]
  · rw [List.filterMap_append, lines, noLines]
    simp [retryLines]

/-- An event that is neither a question nor a line. -/
theorem shows (asked : call.Asked policy times failures start world) {event : Event}
    (silent : event.question? = none) (lineless : event.shownLine? = none) :
    call.Asked policy times failures start (world.shows [event]) := by
  obtain ⟨added, events, questions, lines⟩ := asked
  refine ⟨added ++ [event], by simp [events], ?_, ?_⟩
  · simp [questions, silent]
  · simp [lines, lineless]

/-- The line about the next failure. -/
theorem line (asked : call.Asked policy times failures start world) (failure : Failure) :
    call.Asked policy times (failures ++ [failure]) start
      (world.shows [.line (call.retryLine policy (failures.length + 1) failure)]) := by
  obtain ⟨added, events, questions, lines⟩ := asked
  refine ⟨added ++ [.line (call.retryLine policy (failures.length + 1) failure)],
    by simp [events], ?_, ?_⟩
  · simp [questions, Event.question?]
  · simp [lines, Event.shownLine?, retryLines]

end Asked

theorem invoke_asked {result : Except Stop AgentAnswer}
    (ran : call.invoke root world = (result, last)) (policy : CyclePolicy) :
    call.Asked policy 1 [] world last := by
  obtain ⟨-, tried, runs, events⟩ := invoke_traced ran
  have noQuestion : ∀ event ∈ tried, event.question? = none := by
    intro event member
    obtain ⟨spawn, ending, rfl⟩ := runs event member
    rfl
  have noLine : ∀ event ∈ tried, event.shownLine? = none := by
    intro event member
    obtain ⟨spawn, ending, rfl⟩ := runs event member
    rfl
  refine ⟨.asked call world.files :: tried, events, ?_, ?_⟩
  · simpa [Event.question?] using List.filterMap_eq_nil_iff.2 noQuestion
  · simpa [Event.shownLine?, retryLines] using noLine

theorem Settles.asked {result : Except Stop AgentAnswer}
    (settles : call.Settles root accept world result last) (policy : CyclePolicy) :
    call.Asked policy 1 [] world last := by
  cases settles with
  | accepted answered _ => exact (invoke_asked answered policy).shows rfl rfl
  | stopped stopped _ _ => exact invoke_asked stopped policy

theorem Fails.asked {failure : Failure} (fails : call.Fails root accept world failure last)
    (policy : CyclePolicy) : call.Asked policy 1 [] world last := by
  cases fails with
  | rejected answered _ => exact (invoke_asked answered policy).shows rfl rfl
  | failed failed => exact invoke_asked failed policy
  | empty failed => exact invoke_asked failed policy

/-- Attempts that failed in a row have asked once each, and each is followed by its line. -/
theorem Retries.asked {failures : List Failure}
    (retries : call.Retries context accept start failures world) :
    call.Asked context.policy failures.length failures start world := by
  induction retries with
  | none => exact .refl call context.policy start
  | @more failures failure world after earlier fails _ ih =>
      rw [List.length_append, List.length_singleton]
      exact (ih.again (fails.asked context.policy)).line failure

/-- An attempt that settles the call ends it, if one is left for it after those that failed. -/
theorem Retries.settled {failures : List Failure} {result : Except Stop AgentAnswer}
    (earlier : call.Retries context accept start failures world)
    (within : failures.length < context.policy.attempts)
    (settles : call.Settles context.root accept world result last) :
    call.run context accept start = (result, last) ∧
      call.Asked context.policy (failures.length + 1) failures start last := by
  obtain ⟨left, attempts⟩ := Nat.exists_eq_add_of_lt within
  exact ⟨(earlier.run attempts).trans (settles.tries _), earlier.asked.again (settles.asked _)⟩

/-- The call gives up with the failure of the last attempt. -/
theorem Retries.exhausted {failures : List Failure} {failure : Failure}
    (earlier : call.Retries context accept start failures world)
    (attempts : context.policy.attempts = failures.length + 1)
    (fails : call.Fails context.root accept world failure last) :
    call.run context accept start =
        (.error (.failure (.retriesExhausted call.step context.policy.attempts failure)), last) ∧
      call.Asked context.policy context.policy.attempts failures start last := by
  have run := earlier.run attempts
  rw [fails.tries, if_pos rfl] at run
  exact ⟨run, attempts ▸ earlier.asked.again (fails.asked _)⟩

/-- The call breaks down at a failure whose line the console refuses, if another attempt is left. -/
theorem Retries.refused {failures : List Failure} {failure : Failure}
    (earlier : call.Retries context accept start failures world)
    (within : failures.length + 1 < context.policy.attempts)
    (fails : call.Fails context.root accept world failure last)
    (refused : context.console.takes
      (call.retryLine context.policy (failures.length + 1) failure) = false) :
    call.run context accept start = (.error (.breakdown .markup), last) ∧
      call.Asked context.policy (failures.length + 1) failures start last := by
  obtain ⟨left, attempts⟩ := Nat.exists_eq_add_of_lt within
  have counted : context.policy.attempts = failures.length + (left + 1 + 1) := by omega
  have number : context.policy.attempts - (left + 1) = failures.length + 1 := by omega
  have run := earlier.run counted
  rw [fails.tries, if_neg (by omega), number] at run
  exact ⟨run.trans (if_neg (by simp [refused])), earlier.asked.again (fails.asked _)⟩

/-- How the attempts of a call come to an end: one settles it, or none is left after one that fails,
or the console refuses the line about one that fails. -/
inductive Ends (call : AgentCall) (context : CycleContext)
    (accept : Folder → AgentAnswer → Bool) (start : World) (retries : Nat) : Prop
  | settled {failures : List Failure} {world last : World} {result : Except Stop AgentAnswer}
      (earlier : call.Retries context accept start failures world)
      (within : failures.length ≤ retries)
      (settles : call.Settles context.root accept world result last)
  | exhausted {failures : List Failure} {world last : World} {failure : Failure}
      (earlier : call.Retries context accept start failures world)
      (counted : failures.length = retries)
      (fails : call.Fails context.root accept world failure last)
  | refused {failures : List Failure} {world last : World} {failure : Failure}
      (earlier : call.Retries context accept start failures world)
      (within : failures.length < retries)
      (fails : call.Fails context.root accept world failure last)
      (refused : context.console.takes
        (call.retryLine context.policy (failures.length + 1) failure) = false)

/-- From any world on, attempts fail in a row until one settles the call or none is left, or until
the console refuses the line about one. -/
theorem Retries.continued {failures : List Failure} {left retries : Nat}
    (earlier : call.Retries context accept start failures world)
    (counted : failures.length + left = retries) : call.Ends context accept start retries := by
  induction left generalizing failures world with
  | zero =>
      rcases call.settles_or_fails context.root accept world with ⟨_, _, settles⟩ | ⟨_, _, fails⟩
      · exact .settled earlier (by omega) settles
      · exact .exhausted earlier (by omega) fails
  | succ left ih =>
      rcases call.settles_or_fails context.root accept world with
        ⟨_, _, settles⟩ | ⟨failure, last, fails⟩
      · exact .settled earlier (by omega) settles
      cases taken : context.console.takes
          (call.retryLine context.policy (failures.length + 1) failure) with
      | false => exact .refused earlier (by omega) fails taken
      | true =>
          refine ih (earlier.more fails taken) ?_
          rw [List.length_append, List.length_singleton]
          omega

/-- Whether the console takes the line about each failure that an attempt of a call meets. -/
def TakesRetryLines (call : AgentCall) (context : CycleContext)
    (accept : Folder → AgentAnswer → Bool) (start : World) : Prop :=
  ∀ {failures world failure last}, call.Retries context accept start failures world →
    call.Fails context.root accept world failure last →
      context.console.takes (call.retryLine context.policy (failures.length + 1) failure) = true

/-- A console that makes sense of styles takes the lines about failures without marks, whose step
has none either. -/
theorem takesRetryLines_of_unmarked (styled : context.console.TakesStyled)
    (step : IsUnmarked call.step)
    (messages : ∀ {failures world failure last}, call.Retries context accept start failures world →
      call.Fails context.root accept world failure last → IsUnmarked failure.message) :
    call.TakesRetryLines context accept start := by
  intro failures world failure last earlier fails
  have opening : "[yellow]" = "[" ++ "yellow" ++ "]" := by decide
  have closing : "s[/yellow]" = "s" ++ ("[/" ++ "yellow" ++ "]") := by decide
  have line : call.retryLine context.policy (failures.length + 1) failure =
      "[" ++ "yellow" ++ "]" ++
        (call.step ++ " failed (attempt " ++ toString (failures.length + 1) ++ "/" ++
          toString context.policy.attempts ++ "): " ++ failure.message ++ "; retrying in " ++
          context.policy.retryDelay.text .plain ++ "s") ++
        "[/" ++ "yellow" ++ "]" := by
    unfold retryLine
    rw [opening, closing]
    simp only [String.append_assoc, -String.reduceAppend]
  have count (n : Nat) : IsUnmarked (toString n) :=
    unmarked_of_digits (Number.areDigits_digitsOf n)
  rw [line]
  refine styled "yellow" (by decide) _ ?_
  refine .append (.append (.append (.append ?_ (messages earlier fails)) (.spelled (by decide)))
    (floatText_unmarked _)) (.spelled (by decide))
  exact .append (.append (.append (.append (.append step (.spelled (by decide))) (count _))
    (.spelled (by decide))) (count _)) (.spelled (by decide))

end AgentCall

/-! ### A third attempt -/

namespace ThirdAttempt

/-- A question about a proposal. -/
def call : AgentCall :=
  { step := "generate:proposal", role := .generator, prompt := "Write proposal.md" }

/-- The policy allows two retries. -/
def context : CycleContext where
  changeId := "search"
  root := ⟨"/", ["work"]⟩
  place := ⟨"/", ["work", "changes", "search"]⟩
  prices := {}
  policy := { maxRetries := 2 }
  lister := ⟨["gemini", "--list-sessions"], 30⟩

/-- An agent that fails first, then has nothing to say, and then does as it is told. -/
def world (third : Reply) : World where
  agents _ := .ready { answer := .error (.failure (.invocation (some 1) "no connection")) }
    [{ answer := .ok { output := " \n", model := .string "m" } }, third]

/-- The two attempts before the third fail, and the third is asked for what is left. -/
theorem retries (third : Reply) :
    ∃ after, call.Retries context (fun _ answer => Cycle.saysSomething answer) (world third)
        [.invocation (some 1) "no connection", .emptyAnswer "generate:proposal"] after ∧
      (call.invoke context.root after).1 = third.answer := by
  refine ⟨_, .more (.more .none (.failed rfl) rfl) (.rejected rfl (by decide)) rfl, ?_⟩
  exact AgentCall.invoke_of_ready rfl

end ThirdAttempt

end PlanCycle
