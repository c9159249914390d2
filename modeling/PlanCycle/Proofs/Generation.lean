/-
Module: PlanCycle.Proofs.Generation
Purpose: How the missing documents of a plan come to be: each in its turn, by one call and at most
  one look of its author at it, and with what its author wrote or else answered.
Main exports:
  Text.IsFenced, Cycle.IsDocumentOf, Cycle.Generates, Cycle.Turn, Cycle.Turns,
  Cycle.generateStep_turns, Project.generation_takes_turns, TwoTurns.bare_plan_is_written_in_turn
-/
import PlanCycle.Proofs.Resumption

namespace PlanCycle

variable {α : Type}

/-! ### Documents in fences -/

namespace Text

/-- The words that may stand behind an opening fence. -/
def fenceTags : List (List Char) :=
  ["".toList, "md".toList, "markdown".toList]

/-- Whether a text is a body in a fence: around both fences there are blanks only, but for a word
behind the first, which stands on a line before the body, and the second begins a line. -/
def IsFenced (text body : List Char) : Prop :=
  ∃ lead tag gap tail, (∀ c ∈ lead, isBlank c = true) ∧ tag ∈ fenceTags ∧
    (∀ c ∈ gap, isBlank c = true) ∧ (∀ c ∈ tail, isBlank c = true) ∧
    text = lead ++ fence ++ tag ++ gap ++ '\n' :: (body ++ '\n' :: fence ++ tail)

variable {text body lead gap tail : List Char}

theorem closedBody?_eq_some_iff : closedBody? text = some body ↔
    ∃ tail, (∀ c ∈ tail, isBlank c = true) ∧ text = body ++ '\n' :: fence ++ tail := by
  have closing (body : List Char) : trimEnd (body ++ '\n' :: fence) = body ++ '\n' :: fence := by
    simp [trimEnd, trimEndOf, fence, isBlank]
  unfold closedBody?
  dsimp only
  constructor
  · intro found
    split at found
    · rename_i closed
      obtain ⟨front, same⟩ := List.isSuffixOf_iff_suffix.mp closed
      obtain ⟨tail, blank, whole⟩ := exists_trimEnd text
      rw [← same] at found whole
      have front_eq : front = body := by simpa [fence] using found
      exact ⟨tail, blank, front_eq ▸ whole⟩
    · cases found
  · rintro ⟨tail, blank, rfl⟩
    rw [trimEnd_append blank, closing, if_pos (by simp [List.isSuffixOf_iff_suffix])]
    simp [fence]

theorem bodyAfterBlanks?_ok (found : bodyAfterBlanks? text = some body) :
    ∃ gap tail, (∀ c ∈ gap, isBlank c = true) ∧ (∀ c ∈ tail, isBlank c = true) ∧
      text = gap ++ '\n' :: (body ++ '\n' :: fence ++ tail) := by
  induction text with
  | nil => cases found
  | cons c text ih =>
      unfold bodyAfterBlanks? at found
      split at found
      · rename_i blank
        split at found
        · rename_i later same
          obtain ⟨gap, tail, gaps, tails, rfl⟩ := ih (same.trans found)
          exact ⟨c :: gap, tail, List.forall_mem_cons.mpr ⟨blank, gaps⟩, tails, rfl⟩
        · split at found
          · rename_i newline
            obtain ⟨tail, tails, rfl⟩ := closedBody?_eq_some_iff.1 found
            exact ⟨[], tail, by simp, tails, by rw [newline]; rfl⟩
          · cases found
      · cases found

/-- The body that is found may lack blank lines at its beginning. -/
theorem bodyAfterBlanks?_gives (gaps : ∀ c ∈ gap, isBlank c = true)
    (tails : ∀ c ∈ tail, isBlank c = true) (body : List Char) :
    ∃ found, bodyAfterBlanks? (gap ++ '\n' :: (body ++ '\n' :: fence ++ tail)) = some found ∧
      trim found = trim body := by
  induction gap with
  | nil =>
      have closed : closedBody? (body ++ '\n' :: fence ++ tail) = some body :=
        closedBody?_eq_some_iff.2 ⟨tail, tails, rfl⟩
      rw [List.nil_append]
      unfold bodyAfterBlanks?
      rw [if_pos (by decide)]
      split
      · rename_i found same
        refine ⟨found, rfl, ?_⟩
        -- A later line end begins a body only behind blanks, which the longer body begins with.
        obtain ⟨more, rest, blanks, tails, whole⟩ := bodyAfterBlanks?_ok same
        have shorter : closedBody? (body ++ '\n' :: fence ++ tail) = some (more ++ '\n' :: found) :=
          closedBody?_eq_some_iff.2 ⟨rest, tails, by simpa using whole⟩
        rw [closed] at shorter
        rw [Option.some.inj shorter, trim_append blanks]
        have blank : ∀ c ∈ ['\n'], isBlank c = true := List.forall_mem_singleton.mpr rfl
        exact (trim_append blank found).symm
      · exact ⟨body, (if_pos rfl).trans closed, rfl⟩
  | cons c gap ih =>
      obtain ⟨blank, gaps⟩ := List.forall_mem_cons.mp gaps
      obtain ⟨found, same, trimmed⟩ := ih gaps
      refine ⟨found, ?_, trimmed⟩
      rw [List.cons_append]
      unfold bodyAfterBlanks?
      rw [if_pos blank, same]

theorem dropFenceTag_ok (text : List Char) :
    ∃ tag ∈ fenceTags, text = tag ++ dropFenceTag text := by
  unfold dropFenceTag
  split
  · rename_i starts
    obtain ⟨rest, rfl⟩ := List.isPrefixOf_iff_prefix.mp starts
    exact ⟨"markdown".toList, by decide, rfl⟩
  · split
    · rename_i starts
      obtain ⟨rest, rfl⟩ := List.isPrefixOf_iff_prefix.mp starts
      exact ⟨"md".toList, by decide, rfl⟩
    · exact ⟨"".toList, by decide, rfl⟩

/-- A word is dropped where a blank follows it. -/
theorem dropFenceTag_gives {tag rest : List Char} {c : Char} (member : tag ∈ fenceTags)
    (blank : isBlank c = true) : dropFenceTag (tag ++ c :: rest) = c :: rest := by
  have other : 'm' ≠ c := by
    rintro rfl
    cases blank
  simp only [fenceTags, List.mem_cons, List.not_mem_nil, or_false] at member
  unfold dropFenceTag
  rcases member with rfl | rfl | rfl
  · simp [other]
  · simp
  · simp

theorem fencedBody?_ok (found : fencedBody? text = some body) : IsFenced text body := by
  unfold fencedBody? at found
  dsimp only at found
  split at found
  · rename_i opened
    obtain ⟨rest, same⟩ := List.isPrefixOf_iff_prefix.mp opened
    rw [← same] at found
    obtain ⟨tag, member, tagged⟩ := dropFenceTag_ok rest
    obtain ⟨gap, tail, gaps, tails, after⟩ := bodyAfterBlanks?_ok found
    have leads : ∀ c ∈ text.takeWhile isBlank, isBlank c = true :=
      List.all_eq_true.mp List.all_takeWhile
    refine ⟨text.takeWhile isBlank, tag, gap, tail, leads, member, gaps, tails, ?_⟩
    have whole : text.takeWhile isBlank ++ dropBlank text = text :=
      List.takeWhile_append_dropWhile
    have dropped : (fence ++ rest).drop 3 = rest := rfl
    rw [dropped] at after
    rw [← same, tagged, after] at whole
    simpa using whole.symm
  · cases found

theorem fencedBody?_gives (fenced : IsFenced text body) :
    ∃ found, fencedBody? text = some found ∧ trim found = trim body := by
  obtain ⟨lead, tag, gap, tail, leads, member, gaps, tails, rfl⟩ := fenced
  obtain ⟨found, same, trimmed⟩ := bodyAfterBlanks?_gives gaps tails body
  refine ⟨found, ?_, trimmed⟩
  obtain ⟨c, rest, blank, begins⟩ : ∃ c rest, isBlank c = true ∧
      gap ++ '\n' :: (body ++ '\n' :: fence ++ tail) = c :: rest := by
    cases gap with
    | nil => exact ⟨_, _, by decide, rfl⟩
    | cons c gap => exact ⟨c, _, gaps c List.mem_cons_self, rfl⟩
  rw [begins] at same
  have opened : dropBlank (lead ++ fence ++ tag ++ c :: rest) = fence ++ (tag ++ c :: rest) := by
    rw [List.append_assoc, List.append_assoc, dropBlank_append leads]
    exact dropBlank_of_not_blank (by decide) _
  unfold fencedBody?
  dsimp only
  rw [List.append_assoc _ gap, begins, opened,
    if_pos (List.isPrefixOf_iff_prefix.mpr (List.prefix_append _ _))]
  have dropped : (fence ++ (tag ++ c :: rest)).drop 3 = tag ++ c :: rest := rfl
  rw [dropped, dropFenceTag_gives member blank, same]

end Text

namespace Cycle

open Text

/-- The document that an answer holds: its body if that is in a fence, else all of it, without
blanks at either end and with a line end behind it. -/
def IsDocumentOf (output document : String) : Prop :=
  ∃ body, (IsFenced output.toList body ∨
      (∀ other, ¬IsFenced output.toList other) ∧ body = output.toList) ∧
    document = String.ofList (trim body ++ ['\n'])

/-- An answer holds one document. -/
theorem isDocumentOf_iff {output document : String} :
    IsDocumentOf output document ↔ document = documentOf output := by
  unfold documentOf withoutFence
  cases found : fencedBody? output.toList with
  | some body =>
      constructor
      · rintro ⟨other, fenced | ⟨plain, rfl⟩, rfl⟩
        · obtain ⟨_, same, trimmed⟩ := fencedBody?_gives fenced
          cases found.symm.trans same
          rw [Option.getD_some, trimmed]
        · exact absurd (fencedBody?_ok found) (plain body)
      · rintro rfl
        exact ⟨body, .inl (fencedBody?_ok found), rfl⟩
  | none =>
      have plain (other : List Char) : ¬IsFenced output.toList other := by
        intro fenced
        obtain ⟨_, impossible, -⟩ := fencedBody?_gives fenced
        cases found.symm.trans impossible
      constructor
      · rintro ⟨other, fenced | ⟨-, rfl⟩, rfl⟩
        · exact absurd fenced (plain other)
        · rfl
      · rintro rfl
        exact ⟨output.toList, .inr ⟨plain, rfl⟩, rfl⟩

end Cycle

/-! ### Calls that are accepted -/

/-- No answer is accepted. -/
def Guarantee.unaccepting : Guarantee where
  holds before after :=
    ∃ added, after.events = before.events ++ added ∧ Event.acceptedCalls added = []
  refl _ := ⟨[], by simp, rfl⟩
  trans earlier later := by
    obtain ⟨added, events, one⟩ := earlier
    obtain ⟨more, moreEvents, two⟩ := later
    exact ⟨added ++ more, by rw [moreEvents, events, List.append_assoc], by simp [one, two]⟩
  line _ _ := ⟨_, rfl, rfl⟩
  warning _ _ := ⟨_, rfl, rfl⟩
  logs _ _ := ⟨[], by simp, rfl⟩

theorem Run.session_unaccepting (work : Session α) :
    Run.Guarantees .unaccepting (Run.session work) := by
  refine .session (fun world store => ?_) work
  exact ⟨[], (List.append_nil _).symm, rfl⟩

/-- The answer that ends a call is accepted on the files as they are then. -/
theorem AgentCall.run_answered {call : AgentCall} {context : CycleContext}
    {accept : Folder → AgentAnswer → Bool} {world last : World} {answer : AgentAnswer}
    (ran : call.run context accept world = (.ok answer, last)) :
    last.store = world.store ∧ ∃ added, last.events = world.events ++ added ∧
      Event.acceptedCalls added = [(call.role, call.step, answer)] ∧
      .answered call answer true last.files ∈ added := by
  obtain ⟨added, events, accepted⟩ := events_run ran
  refine ⟨store_run ran, added, events, accepted, ?_⟩
  rcases run_leaves ran with ⟨impossible, -⟩ | ⟨⟨-, tried, -, traced⟩, -⟩
  · cases impossible
  · rw [traced, List.append_assoc] at events
    rw [← List.append_cancel_left events]
    simp [ending]

namespace Cycle

open Run

/-! ### One document -/

/-- Whether the file of a document holds what its author wrote there by the time of an answer, or
else the document that the answer holds. -/
def HoldsDocument (artifact : Artifact) (answered files : Folder) (answer : AgentAnswer) : Prop :=
  ∃ content, files.file? artifact.file = some content ∧
    (answered.file? artifact.file = some content ∨
      answered.file? artifact.file = none ∧
        ∃ document, content = .text document ∧ IsDocumentOf answer.output document)

/-- The call by which a document is asked for, with its answer. -/
def generation (artifact : Artifact) (answer : AgentAnswer) : Role × String × AgentAnswer :=
  (.generator, "generate:" ++ artifact.name, answer)

/-- The call by which the author of a document is asked to look at it again, with its answer. -/
def selfReviewing (artifact : Artifact) (answer : AgentAnswer) : Role × String × AgentAnswer :=
  (.generator, "self-review:" ++ artifact.name, answer)

/-- A document that was missing has been written: one answer was accepted and is on record, and the
file is there. -/
structure Generates (context : CycleContext) (artifact : Artifact) (before : World)
    (answer : AgentAnswer) (after : World) : Prop where
  missing : (context.folder before).has artifact = false
  wrote : writeDocument context artifact before = (.ok (), after)
  traced : ∃ added, after.events = before.events ++ added ∧
    Event.acceptedCalls added = [generation artifact answer] ∧
    ∃ call files, .answered call answer true files ∈ added ∧
      HoldsDocument artifact files after.files answer
  booked : ∃ entry, after.store.usage = before.store.usage ++ [entry] ∧
    entry.IsFor context.prices context.changeId (generation artifact answer)

section
variable {context : CycleContext} {artifact : Artifact} {answer : AgentAnswer}
variable {world last : World}

theorem keepSession_keepsUsage : (keepSession context artifact answer).KeepsUsage := by
  unfold keepSession
  split
  · split
    · exact .bind (.modify _ _) fun _ => .pure _
    · intro store value last impossible
      cases impossible
  · exact .pure _

/-- What is kept of a document is what its call used, and no file. -/
theorem keepDocument_ok (ran : keepDocument context artifact answer world = (.ok (), last)) :
    last.files = world.files ∧ Guarantee.unaccepting.holds world last ∧
      ∃ entry, last.store.usage = world.store.usage ++ [entry] ∧
        entry.IsFor context.prices context.changeId (generation artifact answer) := by
  have quiet : Guarantees .unaccepting (keepDocument context artifact answer) :=
    keepDocument_guarantees (fun _ => session_unaccepting _) context artifact answer
  have accepted := quiet ran
  unfold keepDocument at ran
  rw [Run.bind_of_ok (warnOfUsage_apply _ _ _)] at ran
  obtain ⟨_, kept, begun, said⟩ := Run.bind_ok ran
  cases said
  rcases Run.session_cases begun with ⟨_, _, impossible, _⟩ | ⟨_, store, worked, _, rfl⟩
  · cases impossible
  obtain ⟨record, _, recorded, worked⟩ := Session.bind_ok_iff.1 worked
  obtain ⟨given, -, rfl⟩ := recordUsage_ok_iff.1 recorded
  have rest : (do
      let _ ← Session.load context.changeId
      keepSession context artifact answer
      keepAction context ("generated " ++ artifact.name) : Session Unit).KeepsUsage :=
    .bind (.load _) fun _ => .bind keepSession_keepsUsage fun _ =>
      .bind (.modify _ _) fun _ => .pure _
  exact ⟨rfl, accepted, _, rest worked, UsageEntry.isFor_record given⟩

theorem writeDocument_generates (missing : (context.folder world).has artifact = false)
    (ran : writeDocument context artifact world = (.ok (), last)) :
    ∃ answer, Generates context artifact world answer last := by
  have wrote := ran
  let line : Event := .line ("[cyan]Generating " ++ artifact.name ++ "...[/cyan]")
  rw [writeDocument_eq, Run.bind_of_ok (Run.say_apply _ world), documents,
    Run.bind_of_ok (Run.look_apply _ _)] at ran
  obtain ⟨prompt, asking, prompted, ran⟩ := Run.bind_ok ran
  rw [Run.ofExcept_apply] at prompted
  obtain ⟨-, rfl⟩ := Prod.mk.inj prompted
  obtain ⟨answer, answered, asked, ran⟩ := Run.bind_ok ran
  obtain ⟨_, filled, fill, ran⟩ := Run.bind_ok ran
  obtain ⟨asking, added, traced, accepted, among⟩ := AgentCall.run_answered asked
  obtain ⟨filling, shown, there⟩ := fillDocument_cases fill
  obtain ⟨files, ⟨more, moreTraced, none_accepted⟩, entry, usage, booked⟩ := keepDocument_ok ran
  refine ⟨answer, missing, wrote, ?_, entry, ?_, booked⟩
  · refine ⟨[line] ++ added ++ more, ?_, ?_, _, answered.files,
      List.mem_append_left _ (List.mem_append_right _ among), ?_⟩
    · rw [moreTraced, shown, traced, World.events_shows, List.append_assoc, List.append_assoc]
      rfl
    · rw [Event.acceptedCalls_append, Event.acceptedCalls_append, accepted, none_accepted]
      rfl
    · refine ⟨_, files ▸ there rfl, ?_⟩
      cases written : answered.files.file? artifact.file with
      | some content => exact .inl rfl
      | none => exact .inr ⟨rfl, _, rfl, isDocumentOf_iff.2 rfl⟩
  · rw [usage, filling, asking]
    rfl

/-- One answer of the author is accepted when it looks at a document again. -/
theorem selfReview_ok (ran : selfReview context artifact world = (.ok (), last)) :
    ∃ opinion added, last.events = world.events ++ added ∧
      Event.acceptedCalls added = [selfReviewing artifact opinion] := by
  unfold selfReview documents at ran
  rw [Run.bind_of_ok (Run.look_apply _ world)] at ran
  obtain ⟨opinion, answered, asked, ran⟩ := Run.bind_ok ran
  obtain ⟨-, added, traced, accepted, -⟩ := AgentCall.run_answered asked
  have quiet : Guarantees .unaccepting (do
      Run.warnAll (Review.warnings opinion.output)
      showSelfReview artifact (Review.parse opinion.output).verdict
      warnOfUsage ("self-review:" ++ artifact.name) opinion
      Run.session do
        let _ ← recordUsage context ("self-review:" ++ artifact.name) opinion
        let change ← Session.load context.changeId
        requireWhole opinion
        keepReview context artifact ReviewEntry.selfReview (Review.parse opinion.output)
          change.iteration) :=
    .bind (.warnAll _) fun _ => .bind (showSelfReview_guarantees _ _) fun _ =>
      .bind (warnOfUsage_guarantees _ _) fun _ => session_unaccepting _
  obtain ⟨more, moreTraced, none_accepted⟩ := quiet ran
  refine ⟨opinion, added ++ more, by rw [moreTraced, traced, List.append_assoc], ?_⟩
  rw [Event.acceptedCalls_append, accepted, none_accepted]
  rfl

end

/-! ### Documents in turn -/

/-- The turn of a document, with the calls that are accepted in it.  A document that is there is
left alone.  One that is missing is generated, and its author looks at it again if the policy wants
that. -/
inductive Turn (context : CycleContext) (artifact : Artifact) (before : World) :
    List (Role × String × AgentAnswer) → World → Prop
  | skipped {after : World} (there : (context.folder before).has artifact = true)
      (same : after.files = before.files) (quiet : Guarantee.unaccepting.holds before after) :
      Turn context artifact before [] after
  | generated {answer : AgentAnswer} {after : World}
      (generates : Generates context artifact before answer after)
      (unreviewed : context.policy.selfReviewIterations < 1) :
      Turn context artifact before [generation artifact answer] after
  | reviewed {answer opinion : AgentAnswer} {written after : World}
      (generates : Generates context artifact before answer written)
      (reviewed : 1 ≤ context.policy.selfReviewIterations)
      (ran : selfReview context artifact written = (.ok (), after))
      (traced : ∃ added, after.events = written.events ++ added ∧
        Event.acceptedCalls added = [selfReviewing artifact opinion]) :
      Turn context artifact before [generation artifact answer, selfReviewing artifact opinion]
        after

/-- The turns of several documents, each from where the one before ends. -/
inductive Turns (context : CycleContext) : List Artifact → World →
    List (Role × String × AgentAnswer) → World → Prop
  | none {world : World} : Turns context [] world [] world
  | next {artifact : Artifact} {artifacts : List Artifact} {before between after : World}
      {calls more : List (Role × String × AgentAnswer)}
      (turn : Turn context artifact before calls between)
      (rest : Turns context artifacts between more after) :
      Turns context (artifact :: artifacts) before (calls ++ more) after

section
variable {context : CycleContext} {artifact : Artifact} {artifacts : List Artifact}
variable {before after : World} {calls : List (Role × String × AgentAnswer)}

/-- The calls of a turn are those that are accepted in it. -/
theorem Turn.acceptedCalls_eq (turn : Turn context artifact before calls after) :
    Event.acceptedCalls after.events = Event.acceptedCalls before.events ++ calls := by
  cases turn with
  | skipped there same quiet =>
      obtain ⟨added, events, none_accepted⟩ := quiet
      rw [events, Event.acceptedCalls_append, none_accepted]
  | generated generates unreviewed =>
      obtain ⟨added, events, accepted, -⟩ := generates.traced
      rw [events, Event.acceptedCalls_append, accepted]
  | reviewed generates reviewed ran traced =>
      obtain ⟨added, events, accepted, -⟩ := generates.traced
      obtain ⟨more, moreEvents, moreAccepted⟩ := traced
      rw [moreEvents, events, Event.acceptedCalls_append, Event.acceptedCalls_append, accepted,
        moreAccepted, List.append_assoc]
      rfl

theorem Turns.acceptedCalls_eq (turns : Turns context artifacts before calls after) :
    Event.acceptedCalls after.events = Event.acceptedCalls before.events ++ calls := by
  induction turns with
  | none => exact (List.append_nil _).symm
  | next turn rest ih => rw [ih, turn.acceptedCalls_eq, List.append_assoc]

theorem generateMissing_turn (ran : generateMissing context artifact before = (.ok (), after)) :
    ∃ calls, Turn context artifact before calls after := by
  unfold generateMissing generate documents at ran
  rw [Run.bind_of_ok (Run.look_apply _ before)] at ran
  cases there : (context.folder before).has artifact with
  | true =>
      rw [there, if_pos rfl] at ran
      cases ran
      exact ⟨[], .skipped there rfl ⟨_, rfl, rfl⟩⟩
  | false =>
      rw [there, if_neg Bool.false_ne_true] at ran
      obtain ⟨_, written, wrote, ran⟩ := Run.bind_ok ran
      obtain ⟨answer, generates⟩ := writeDocument_generates there wrote
      split at ran
      · rename_i wanted
        obtain ⟨opinion, traced⟩ := selfReview_ok ran
        exact ⟨_, .reviewed generates (by omega) ran traced⟩
      · rename_i unwanted
        cases ran
        exact ⟨_, .generated generates (by omega)⟩

theorem generateAll_turns (ran : generateAll context artifacts before = (.ok (), after)) :
    ∃ calls, Turns context artifacts before calls after := by
  induction artifacts generalizing before with
  | nil =>
      cases ran
      exact ⟨[], .none⟩
  | cons artifact artifacts ih =>
      obtain ⟨_, between, one, ran⟩ := Run.bind_ok ran
      obtain ⟨calls, turn⟩ := generateMissing_turn one
      obtain ⟨more, rest⟩ := ih ran
      exact ⟨calls ++ more, .next turn rest⟩

/-- A step that has the missing documents written gives the proposal its turn, and then the specs
that the proposal names by then, in order, and the task list. -/
theorem generateStep_turns (ran : generateStep context before = (.ok (.done ()), after)) :
    ∃ first proposed ids rest written,
      Turn context .proposal (before.logs (stepEvent context "generate" "started")) first proposed ∧
        (context.folder proposed).specIds = .ok ids ∧
        Turns context (ids.map .spec ++ [.tasks]) proposed rest written ∧
        after = written.logs (stepEvent context "generate" "completed") := by
  rcases runStep_cases ran with ⟨ending, written, went, same, rfl⟩ | ⟨_, _, _, -, impossible, -⟩ |
    ⟨_, _, _, _, -, impossible, -⟩
  · cases same
    obtain ⟨_, proposed, one, went⟩ := Run.bind_ok went
    obtain ⟨first, turn⟩ := generateMissing_turn one
    rw [documents, Run.bind_of_ok (Run.look_apply _ proposed)] at went
    obtain ⟨required, _, listed, went⟩ := Run.bind_ok went
    obtain ⟨needs, rfl⟩ := Run.ofFiles_ok_iff.1 listed
    unfold ChangeFolder.required at needs
    obtain ⟨ids, named, rfl⟩ := TaskList.map_ok_iff.1 needs
    obtain ⟨_, _, generated, went⟩ := Run.bind_ok went
    cases went
    obtain ⟨rest, turns⟩ := generateAll_turns generated
    exact ⟨first, _, ids, rest, _, turn, named, turns, rfl⟩
  · cases impossible
  · cases impossible

end

end Cycle

/-! ### Cycles on a change -/

namespace Project

open PlanCycle.Cycle

variable {project : Project} {root : Path} {id : String} {means : Means}

/-- Whether a cycle on a proposed change whose plan is not all written completes the step that
writes what is missing, and from where on and to which world. -/
def CompletesGeneration (project : Project) (root : Path) (id : String) (means : Means)
    (context : CycleContext) (begun written : World) : Prop :=
  ∃ store ready, project.records root id = some store ∧
    project.prepare root id means (project.start root id means store) =
      (.ok (context, .proposed), ready) ∧
    isWritten (project.documents root id) = .ok false ∧
    begun = ready.logs (stepEvent context "generate" "started") ∧
    generateStep context ready = (.ok (.done ()), written)

/-- **Missing documents are written in turn.**  A cycle that completes the step for it gives a turn
to the proposal, then to the specs in the order in which the proposal lists them once its own turn
is over, and then to the task list.  The calls that are accepted in the step are those of the turns:
for a document that is missing when its turn comes, one by which it is generated, and one by which
its author looks at it again exactly if the policy wants that.  Once the first is on record, the
file is there, as its author wrote it, or else with the document that the answer holds. -/
theorem generation_takes_turns {context : CycleContext} {begun written : World}
    (completes : project.CompletesGeneration root id means context begun written) :
    context.changeId = id ∧
      context.policy = means.policy.getD (.ofSettings project.settings) ∧
      context.folder begun = project.documents root id ∧
      ∃ first proposed ids rest last, Turn context .proposal begun first proposed ∧
        (context.folder proposed).specIds = .ok ids ∧
        Turns context (ids.map .spec ++ [.tasks]) proposed rest last ∧
        last.files = written.files ∧
        Event.acceptedCalls written.events = first ++ rest ∧
        ∃ later, (project.cycle root id means).events = written.events ++ later := by
  obtain ⟨store, ready, recorded, prepared, unwritten, rfl, generated⟩ := completes
  obtain ⟨about, -, policy, folder, -, fresh⟩ := prepare_start recorded prepared
  obtain ⟨first, proposed, ids, rest, last, turn, named, turns, rfl⟩ := generateStep_turns generated
  refine ⟨about, policy, folder, first, proposed, ids, rest, last, turn, named, turns, rfl, ?_, ?_⟩
  · rw [World.events_logs, turns.acceptedCalls_eq, turn.acceptedCalls_eq, World.events_logs, fresh]
    rfl
  · rcases went : challengePlan context (last.logs (stepEvent context "generate" "completed")) with
      ⟨result, final⟩
    have planned : runCycle context .proposed ready = (result, final) := by
      rw [runCycle_of_unwritten (by rw [folder]; exact unwritten)]
      exact (Run.bind_of_ok generated).trans went
    have whole : project.cycle root id means = _ :=
      within_onceReady recorded prepared planned
    rw [whole]
    obtain ⟨⟨later, events, -⟩, -⟩ := challengePlan_converses went
    exact ⟨later, events⟩

end Project

namespace TwoTurns

open PlanCycle.Cycle

/-- The project with the change before any document is written. -/
def bareProject : Project :=
  let place := Project.place {} root change.id
  { folders := [(place, {})], stores := [(Settings.recordPath {} place, { changes := [change] })] }

/-- A generator that answers with the proposal and with the task list, the latter in a fence, and
that writes the spec itself. -/
def author : Role → Agent
  | _ => .ready (replyOf "- Affected specs: auth")
      [replyOf "ok",
        { replyOf "done" with edits := [.write (Artifact.file (.spec "auth")) (.text "# Auth")] },
        replyOf "ok", replyOf "```md\n# Tasks\n```", replyOf "ok"]

/-- What a cycle on the bare change does not alter. -/
def bareContext : CycleContext :=
  bareProject.context root change { agents := author } means lister

/-- Where the missing documents are written from. -/
def bareWorld : World :=
  { store := { changes := [change] }, agents := author, processes := means.processes }

/-- The world once they are written. -/
def bareWritten : World := (generateStep bareContext bareWorld).2

set_option maxRecDepth 100000 in
/-- The step is evaluated: each of the three documents is generated and looked at again. -/
theorem generateStep_bare :
    handedOn? (generateStep bareContext bareWorld).1 = some () ∧
      (Event.acceptedCalls bareWritten.events).map (·.2.1) =
        ["generate:proposal", "self-review:proposal", "generate:specs/auth",
          "self-review:specs/auth", "generate:tasks", "self-review:tasks"] ∧
      bareWritten.files.file? (Artifact.file .tasks) = some (.text "# Tasks\n") := by
  decide +kernel

/-- Each document of the bare change has its turn, and is looked at again.  The task list is what
the generator answered, without the fence. -/
theorem bare_plan_is_written_in_turn :
    let begun := bareWorld.logs (stepEvent bareContext "generate" "started")
    bareProject.CompletesGeneration root change.id (meansOf author) bareContext begun bareWritten ∧
      ∃ first proposed ids rest last, Turn bareContext .proposal begun first proposed ∧
        (bareContext.folder proposed).specIds = .ok ids ∧
        Turns bareContext (ids.map .spec ++ [.tasks]) proposed rest last ∧
        (first ++ rest).map (·.2.1) =
          ["generate:proposal", "self-review:proposal", "generate:specs/auth",
            "self-review:specs/auth", "generate:tasks", "self-review:tasks"] ∧
        bareWritten.files.file? (Artifact.file .tasks) = some (.text "# Tasks\n") := by
  obtain ⟨done, steps, tasks⟩ := generateStep_bare
  have recorded : bareProject.records root change.id = some { changes := [change] } := rfl
  have prepared : bareProject.prepare root change.id (meansOf author)
      (bareProject.start root change.id (meansOf author) { changes := [change] }) =
        (.ok (bareContext, .proposed), bareWorld) :=
    Project.prepare_ok_iff.2 ⟨change, { agents := author }, lister, rfl, rfl, listed, rfl, rfl, rfl,
      rfl⟩
  have unwritten : isWritten (bareProject.documents root change.id) = .ok false := rfl
  have generated : generateStep bareContext bareWorld = (.ok (.done ()), bareWritten) :=
    eq_of_handedOn? done
  have completes : bareProject.CompletesGeneration root change.id (meansOf author) bareContext
      (bareWorld.logs (stepEvent bareContext "generate" "started")) bareWritten :=
    ⟨_, _, recorded, prepared, unwritten, rfl, generated⟩
  obtain ⟨-, -, -, first, proposed, ids, rest, last, turn, named, turns, -, accepted, -⟩ :=
    Project.generation_takes_turns completes
  exact ⟨completes, first, proposed, ids, rest, last, turn, named, turns, accepted ▸ steps, tasks⟩

end TwoTurns

end PlanCycle
