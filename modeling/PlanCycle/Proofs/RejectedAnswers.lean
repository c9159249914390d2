/-
Module: PlanCycle.Proofs.RejectedAnswers
Purpose: What a planning run adds to the totals of a change: what the accepted answers used.  An
  answer that is rejected as empty is paid for and counted nowhere.
Main exports:
  Event.returnedCalls, Event.rejectedCalls, UsageTotals.Adds, Report.Booked.adds, Project.totals,
  Project.rejected_answers_are_uncounted
-/
import PlanCycle.Proofs.UsageRecords

namespace PlanCycle

open Number

variable {α : Type}

/-! ### Answers that were given -/

/-- The role and the step of a call that was answered, with the answer. -/
def Event.returned? : Event → Option (Role × String × AgentAnswer)
  | .answered call answer _ _ => some (call.role, call.step, answer)
  | _ => none

/-- The role and the step of a call whose answer was rejected, with the answer. -/
def Event.rejected? : Event → Option (Role × String × AgentAnswer)
  | .answered call answer false _ => some (call.role, call.step, answer)
  | _ => none

/-- The calls of a trace that were answered, in order, be the answers accepted or not. -/
def Event.returnedCalls (events : List Event) : List (Role × String × AgentAnswer) :=
  events.filterMap returned?

/-- The calls of a trace whose answers were rejected, in order. -/
def Event.rejectedCalls (events : List Event) : List (Role × String × AgentAnswer) :=
  events.filterMap rejected?

namespace AgentAnswer

/-- What a price table charges for an answer. -/
def cost (prices : PriceTable) (answer : AgentAnswer) : Decimal :=
  prices.cost (answer.model.string?.getD "") (max answer.inputTokens 0) (max answer.outputTokens 0)

/-- The sum of a count over calls, negative ones as zero. -/
def sumOf (count : AgentAnswer → Int) (calls : List (Role × String × AgentAnswer)) : Int :=
  total (calls.map fun call => max (count call.2.2) 0)

variable (count : AgentAnswer → Int)

theorem sumOf_cons (call : Role × String × AgentAnswer)
    (calls : List (Role × String × AgentAnswer)) :
    sumOf count (call :: calls) = max (count call.2.2) 0 + sumOf count calls := rfl

theorem sumOf_nonneg (calls : List (Role × String × AgentAnswer)) : 0 ≤ sumOf count calls := by
  induction calls with
  | nil => exact Int.le_refl 0
  | cons call calls ih =>
      rw [sumOf_cons]
      omega

/-- Nothing comes together if and only if nothing was used by any of the calls. -/
theorem sumOf_eq_zero_iff (calls : List (Role × String × AgentAnswer)) :
    sumOf count calls = 0 ↔ ∀ call ∈ calls, count call.2.2 ≤ 0 := by
  induction calls with
  | nil => simp [sumOf, total]
  | cons call calls ih =>
      have rest := sumOf_nonneg count calls
      rw [sumOf_cons, List.forall_mem_cons, ← ih]
      omega

/-- What was returned was accepted or rejected. -/
theorem sumOf_returnedCalls (events : List Event) :
    sumOf count (Event.returnedCalls events) =
      sumOf count (Event.acceptedCalls events) + sumOf count (Event.rejectedCalls events) := by
  induction events with
  | nil => rfl
  | cons event events ih =>
      cases event with
      | answered call answer accepted files =>
          have returned : Event.returnedCalls (.answered call answer accepted files :: events) =
              (call.role, call.step, answer) :: Event.returnedCalls events := rfl
          rw [returned, sumOf_cons, ih]
          cases accepted with
          | true =>
              have taken : Event.acceptedCalls (.answered call answer true files :: events) =
                  (call.role, call.step, answer) :: Event.acceptedCalls events := rfl
              have same : Event.rejectedCalls (.answered call answer true files :: events) =
                  Event.rejectedCalls events := rfl
              rw [taken, same, sumOf_cons, Int.add_assoc]
          | false =>
              have same : Event.acceptedCalls (.answered call answer false files :: events) =
                  Event.acceptedCalls events := rfl
              have refused : Event.rejectedCalls (.answered call answer false files :: events) =
                  (call.role, call.step, answer) :: Event.rejectedCalls events := rfl
              rw [same, refused, sumOf_cons, Int.add_left_comm]
      | _ => exact ih

end AgentAnswer

/-! ### Totals of what was booked -/

/-- Whether totals are earlier ones and what some calls used, each call counted once: its tokens,
negative counts as zero, and what they cost. -/
structure UsageTotals.Adds (prices : PriceTable) (before : UsageTotals)
    (made : List (Role × String × AgentAnswer)) (after : UsageTotals) : Prop where
  calls : after.calls = before.calls + made.length
  tokensIn : after.tokensIn = before.tokensIn + AgentAnswer.sumOf (·.inputTokens) made
  tokensOut : after.tokensOut = before.tokensOut + AgentAnswer.sumOf (·.outputTokens) made
  cost : after.cost =
    (made.map (·.2.2.cost prices)).foldl (fun sum cost => sum.add cost) before.cost

section
variable {prices : PriceTable} {id : String} {made : List (Role × String × AgentAnswer)}
variable {used : List UsageEntry}

/-- What is the same for each call and its record is the same for all of them. -/
theorem UsageEntry.map_eq_of_booked {of : UsageEntry → α}
    {expected : Role × String × AgentAnswer → α}
    (same : ∀ {call entry}, UsageEntry.IsFor prices id call entry → of entry = expected call)
    (booked : List.Forall₂ (UsageEntry.IsFor prices id) made used) :
    used.map of = made.map expected := by
  induction booked with
  | nil => rfl
  | cons one _ ih => rw [List.map_cons, List.map_cons, same one, ih]

theorem UsageEntry.IsFor.cost_eq {call : Role × String × AgentAnswer} {entry : UsageEntry}
    (isFor : UsageEntry.IsFor prices id call entry) :
    entry.usage.cost = call.2.2.cost prices := by
  rw [isFor.cost, isFor.tokensIn, isFor.tokensOut, AgentAnswer.cost, isFor.model]
  rfl

/-- Records of calls add to the totals what these calls used. -/
theorem UsageTotals.adds_of_booked (older : List UsageRecord)
    (booked : List.Forall₂ (UsageEntry.IsFor prices id) made used) :
    (summarize older).Adds prices made (summarize (older ++ used.map (·.usage))) := by
  have inputs : used.map (·.usage.tokensIn) = made.map fun call => max call.2.2.inputTokens 0 :=
    UsageEntry.map_eq_of_booked (·.tokensIn) booked
  have outputs : used.map (·.usage.tokensOut) = made.map fun call => max call.2.2.outputTokens 0 :=
    UsageEntry.map_eq_of_booked (·.tokensOut) booked
  have costs : used.map (·.usage.cost) = made.map (·.2.2.cost prices) :=
    UsageEntry.map_eq_of_booked (·.cost_eq) booked
  have total_append (first second : List Int) :
      total (first ++ second) = total first + total second := List.sum_append
  refine ⟨?_, ?_, ?_, ?_⟩
  · simp only [summarize, List.length_append, List.length_map, booked.length_eq]
  · simp only [summarize, List.map_append, List.map_map, total_append]
    exact congrArg (fun counts => _ + total counts) inputs
  · simp only [summarize, List.map_append, List.map_map, total_append]
    exact congrArg (fun counts => _ + total counts) outputs
  · rw [← costs]
    simp only [summarize, List.foldl_append, List.foldl_map]

end

/-! ### Planning runs -/

namespace Project

variable {root : Path} {id : String} {means : Means}

/-- The totals of what is on record for a change. -/
def totals (project : Project) (root : Path) (id : String) : UsageTotals :=
  summarize (((project.records root id).map (·.usageOf id)).getD [])

theorem totals_eq (project : Project) (root : Path) (id : String) :
    project.totals root id =
      summarize (((project.usage root id).filter (·.changeId == id)).map (·.usage)) := by
  unfold totals usage
  cases project.records root id with
  | none => rfl
  | some store => rfl

/-- What books the accepted answers adds to the totals what they used. -/
theorem adds_of_booked {project : Project} {report : Report α}
    (booked : report.Booked project root id) :
    (project.totals root id).Adds project.settings.prices (Event.acceptedCalls report.events)
      (report.project.totals root id) := by
  obtain ⟨used, usage, booked⟩ := booked
  have ofChange : used.filter (·.changeId == id) = used := by
    have names := UsageEntry.map_eq_of_booked (fun isFor => isFor.change) booked
    refine List.filter_eq_self.mpr fun entry member => beq_iff_eq.mpr ?_
    have named : entry.changeId ∈ used.map (·.changeId) := List.mem_map_of_mem member
    rw [names] at named
    obtain ⟨_, -, same⟩ := List.mem_map.mp named
    exact same.symm
  rw [totals_eq, totals_eq, usage, List.filter_append, ofChange, List.map_append]
  exact UsageTotals.adds_of_booked _ booked

/-- **Rejected answers are not counted.**  A cycle or a round of critiques that gives an outcome, be
it that an agent gave no usable answer at all, adds to the totals of the change what its accepted
answers used, each of them once, and nothing else.  So the totals hold the tokens of all the answers
that agents gave if and only if those that were rejected used none. -/
theorem rejected_answers_are_uncounted (project : Project) (root : Path) (id : String)
    (means : Means) :
    ∀ report ∈ [project.cycle root id means, project.challenge root id means], ∀ outcome,
      report.result = .ok outcome →
        let before := project.totals root id
        let after := report.project.totals root id
        let returned := Event.returnedCalls report.events
        before.Adds project.settings.prices (Event.acceptedCalls report.events) after ∧
          ((after.tokensIn = before.tokensIn + AgentAnswer.sumOf (·.inputTokens) returned ∧
              after.tokensOut = before.tokensOut + AgentAnswer.sumOf (·.outputTokens) returned) ↔
            ∀ call ∈ Event.rejectedCalls report.events,
              call.2.2.inputTokens ≤ 0 ∧ call.2.2.outputTokens ≤ 0) := by
  intro report run outcome ended
  have booked : report.Booked project root id := by
    simp only [List.mem_cons, List.not_mem_nil, or_false] at run
    rcases run with rfl | rfl
    · exact onceReady_booked Cycle.runCycle_books ended
    · exact onceReady_booked Cycle.runChallenge_books ended
  have adds := adds_of_booked booked
  refine ⟨adds, ?_⟩
  have unused : (∀ call ∈ Event.rejectedCalls report.events,
        call.2.2.inputTokens ≤ 0 ∧ call.2.2.outputTokens ≤ 0) ↔
      AgentAnswer.sumOf (·.inputTokens) (Event.rejectedCalls report.events) = 0 ∧
        AgentAnswer.sumOf (·.outputTokens) (Event.rejectedCalls report.events) = 0 := by
    rw [AgentAnswer.sumOf_eq_zero_iff, AgentAnswer.sumOf_eq_zero_iff]
    exact forall₂_and
  rw [unused, adds.tokensIn, adds.tokensOut, AgentAnswer.sumOf_returnedCalls,
    AgentAnswer.sumOf_returnedCalls]
  omega

end Project

/-! ### A critic that gives nothing to read -/

namespace TwoTurns

open PlanCycle.Cycle

/-- A blank answer that has used some tokens. -/
def blankReply : Reply :=
  { answer := .ok { answerOf " " with inputTokens := 5, outputTokens := 3 } }

/-- A critic that gives such an answer and then, if asked again, others. -/
def mumbling (others : List Reply) : Role → Agent
  | .critic => .ready blankReply others
  | other => cast.agents other

/-- How often a critique is rejected, the tokens of all answers to the critic, and those in the
totals of the change. -/
def tokensOf (round : Except Stop CycleOutcome × World) : Nat × Int × Int :=
  ((Event.rejectedCalls round.2.events).length,
    AgentAnswer.sumOf (·.inputTokens) (Event.returnedCalls round.2.events),
    (summarize (round.2.store.usageOf change.id)).tokensIn)

set_option maxRecDepth 100000 in
/-- The rounds are evaluated: the critic approves when it is asked again, or never says a thing. -/
theorem round_mumbling :
    ((round (mumbling [replyOf approval.text])).1.toOption = some .approved ∧
        tokensOf (round (mumbling [replyOf approval.text])) = (1, 5, 0)) ∧
      (round (mumbling [])).1.toOption = some (.error .transient "challenge"
          "challenge failed after 3 attempts: challenge returned no usable output") ∧
        tokensOf (round (mumbling [])) = (3, 15, 0) := by
  decide +kernel

theorem totals_challenge (agents : Role → Agent) :
    (project.challenge root change.id (meansOf agents)).project.totals root change.id =
      summarize ((round agents).2.store.usageOf change.id) := by
  have recorded : (project.setState (project.place root change.id)
      { files := (round agents).2.files, store := some (round agents).2.store }).records root
        change.id = some (round agents).2.store := by simp [Project.records]
  rw [challenge_eq_round, Project.totals, recorded, Option.map_some, Option.getD_some]

/-- A round whose critic has to be asked twice is counted with the second answer only. -/
theorem blank_critique_is_uncounted :
    let report := project.challenge root change.id (meansOf (mumbling [replyOf approval.text]))
    report.result = .ok .approved ∧
      (project.totals root change.id).Adds project.settings.prices
        (Event.acceptedCalls report.events) (report.project.totals root change.id) := by
  have ended := (challenge_result (mumbling [replyOf approval.text])).trans
    (ok_of_toOption round_mumbling.1.1)
  exact ⟨ended, (Project.rejected_answers_are_uncounted project root change.id
    (meansOf (mumbling [replyOf approval.text])) _ (List.mem_cons_of_mem _ List.mem_cons_self) _
      ended).1⟩

/-- Answers that were paid for are not in the totals: one that is followed by an approval, and three
after which the attempts run out. -/
theorem blank_critiques_are_lost :
    let asked := project.challenge root change.id (meansOf (mumbling [replyOf approval.text]))
    let given := project.challenge root change.id (meansOf (mumbling []))
    project.totals root change.id = ⟨0, 0, 0, .zero⟩ ∧
      (asked.result = .ok .approved ∧ (Event.rejectedCalls asked.events).length = 1 ∧
        AgentAnswer.sumOf (·.inputTokens) (Event.returnedCalls asked.events) = 5 ∧
        (asked.project.totals root change.id).tokensIn = 0) ∧
      given.result = .ok (.error .transient "challenge"
          "challenge failed after 3 attempts: challenge returned no usable output") ∧
        (Event.rejectedCalls given.events).length = 3 ∧
        AgentAnswer.sumOf (·.inputTokens) (Event.returnedCalls given.events) = 15 ∧
        (given.project.totals root change.id).tokensIn = 0 := by
  dsimp only
  obtain ⟨⟨approved, once⟩, silent, thrice⟩ := round_mumbling
  obtain ⟨rejected, rest⟩ := Prod.mk.inj once
  obtain ⟨returned, counted⟩ := Prod.mk.inj rest
  obtain ⟨allRejected, rest⟩ := Prod.mk.inj thrice
  obtain ⟨allReturned, noneCounted⟩ := Prod.mk.inj rest
  rw [totals_challenge, totals_challenge, challenge_result, challenge_result, challenge_events,
    challenge_events]
  exact ⟨rfl, ⟨ok_of_toOption approved, rejected, returned, counted⟩, ok_of_toOption silent,
    allRejected, allReturned, noneCounted⟩

end TwoTurns

end PlanCycle
