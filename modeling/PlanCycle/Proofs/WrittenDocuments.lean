/-
Module: PlanCycle.Proofs.WrittenDocuments
Purpose: What becomes of an answer whose author wrote no file: it is rejected if it is blank, and
  else its document is written, without the fence that may be around it.
Main exports:
  AgentCall.Judged, AgentCall.run_judged, Cycle.WritesFrom, Cycle.wrapped_documents_are_alike,
  Cycle.blank_documents_were_fenced
-/
import PlanCycle.Proofs.Attempts
import PlanCycle.Proofs.CompletePlan
import PlanCycle.Proofs.Generation

namespace PlanCycle

open Run

/-! ### Answers in the trace of a call -/

/-- Whether no agent has answered in a trace. -/
def Event.Unanswered (events : List Event) : Prop :=
  ∀ call answer accepted files, .answered call answer accepted files ∉ events

theorem Event.unanswered_nil : Event.Unanswered [] := fun _ _ _ _ => List.not_mem_nil

theorem Event.Unanswered.append {events more : List Event} (one : Event.Unanswered events)
    (two : Event.Unanswered more) : Event.Unanswered (events ++ more) :=
  fun _ _ _ _ member => (List.mem_append.mp member).elim (one _ _ _ _) (two _ _ _ _)

theorem Event.unanswered_line (text : String) : Event.Unanswered [.line text] := by
  simp [Event.Unanswered]

/-- The guarantee that no agent answers. -/
def Guarantee.unanswering : Guarantee where
  holds before after := ∃ added, after.events = before.events ++ added ∧ Event.Unanswered added
  refl _ := ⟨[], (List.append_nil _).symm, Event.unanswered_nil⟩
  trans earlier later := by
    obtain ⟨added, events, one⟩ := earlier
    obtain ⟨more, moreEvents, two⟩ := later
    exact ⟨added ++ more, by rw [moreEvents, events, List.append_assoc], one.append two⟩
  line _ text := ⟨_, rfl, Event.unanswered_line text⟩
  warning _ _ := ⟨_, rfl, by simp [Event.Unanswered]⟩
  logs _ _ := ⟨[], (List.append_nil _).symm, Event.unanswered_nil⟩

namespace AgentCall

/-- The answers to a call in a trace are judged by a rule, on the files as they were then.  After
one that was rejected the same is asked again, unless that was given up. -/
structure Judged (call : AgentCall) (accept : Folder → AgentAnswer → Bool) (gaveUp : Prop)
    (added : List Event) : Prop where
  ruled : ∀ {asked answer accepted files}, .answered asked answer accepted files ∈ added →
    asked = call ∧ accepted = accept files answer
  again : ∀ {earlier asked answer files later},
    added = earlier ++ .answered asked answer false files :: later →
      (∃ files, .asked call files ∈ later) ∨ gaveUp

/-- What a call ends with if its last attempt is rejected. -/
def exhausted (call : AgentCall) (context : CycleContext) : Stop :=
  .failure (.retriesExhausted call.step context.policy.attempts (.emptyAnswer call.step))

/-- What gives a call up after an attempt that is rejected: no other one is left, or the console
refuses the line about it. -/
inductive GivesUp (call : AgentCall) (context : CycleContext) : Stop → Prop
  | exhausted : GivesUp call context (call.exhausted context)
  | refused {attempt : Nat}
      (refused : context.console.takes
        (call.retryLine context.policy attempt (.emptyAnswer call.step)) = false) :
      GivesUp call context (.breakdown .markup)

section
variable {call : AgentCall} {context : CycleContext} {root : Path}
variable {accept : Folder → AgentAnswer → Bool} {first rest : List Event} {gaveUp ended : Prop}
variable {world last : World}

theorem Judged.of_unanswered (unanswered : Event.Unanswered first) :
    call.Judged accept gaveUp first where
  ruled member := absurd member (unanswered _ _ _ _)
  again {earlier _ _ _ _} split := by
    subst split
    exact absurd (List.mem_append_right earlier List.mem_cons_self) (unanswered _ _ _ _)

theorem Judged.answer {answer : AgentAnswer} {accepted : Bool} {files : Folder}
    (ruled : accepted = accept files answer) (rejected : accepted = false → gaveUp) :
    call.Judged accept gaveUp [.answered call answer accepted files] := by
  constructor
  · intro asked other verdict seen member
    cases List.mem_singleton.mp member
    exact ⟨rfl, ruled⟩
  · intro earlier asked other seen later split
    have member : .answered asked other false seen ∈ [Event.answered call answer accepted files] :=
      split ▸ List.mem_append_right earlier List.mem_cons_self
    cases List.mem_singleton.mp member
    exact .inr (rejected rfl)

theorem Judged.mono (judged : call.Judged accept gaveUp first) (enough : gaveUp → ended) :
    call.Judged accept ended first :=
  ⟨judged.ruled, fun split => (judged.again split).imp_right enough⟩

/-- What the first part gives up is asked again or given up in the second. -/
theorem Judged.append (one : call.Judged accept gaveUp first) (two : call.Judged accept ended rest)
    (settled : gaveUp → (∃ files, .asked call files ∈ rest) ∨ ended) :
    call.Judged accept ended (first ++ rest) := by
  constructor
  · intro asked answer accepted files member
    exact (List.mem_append.mp member).elim one.ruled two.ruled
  · intro earlier asked answer files later split
    rcases List.append_eq_append_iff.mp split with ⟨between, rfl, second⟩ | ⟨between, rfl, second⟩
    · exact two.again second
    · -- The answer begins the second part or stands in the first one.
      cases between with
      | nil =>
          have whole : rest = [] ++ .answered asked answer false files :: later := second.symm
          exact two.again whole
      | cons event between =>
          obtain ⟨rfl, rfl⟩ := List.cons.inj second
          rcases one.again rfl with ⟨seen, asking⟩ | given
          · exact .inl ⟨seen, List.mem_append_left _ asking⟩
          · exact (settled given).imp_left fun ⟨seen, asking⟩ =>
              ⟨seen, List.mem_append_right _ asking⟩

/-- A question is not answered before its agent is done. -/
theorem invoke_unanswered {result : Except Stop AgentAnswer}
    (ran : call.invoke root world = (result, last)) :
    ∃ added, last.events = world.events ++ added ∧ (∃ files, .asked call files ∈ added) ∧
      Event.Unanswered added := by
  obtain ⟨-, tried, runs, events⟩ := invoke_traced ran
  refine ⟨_, events, ⟨_, List.mem_cons_self⟩, ?_⟩
  intro asked answer accepted files member
  rcases List.mem_cons.mp member with impossible | among
  · cases impossible
  · obtain ⟨_, _, impossible⟩ := runs _ among
    cases impossible

theorem Settles.judged {result : Except Stop AgentAnswer}
    (settles : call.Settles root accept world result last) (gaveUp : Prop) :
    ∃ added, last.events = world.events ++ added ∧ (∃ files, .asked call files ∈ added) ∧
      call.Judged accept gaveUp added := by
  cases settles with
  | accepted answered good =>
      obtain ⟨added, events, ⟨files, asking⟩, unanswered⟩ := invoke_unanswered answered
      refine ⟨_, by rw [World.events_shows, events, List.append_assoc],
        ⟨files, List.mem_append_left _ asking⟩, ?_⟩
      exact .append (.of_unanswered unanswered) (.answer good.symm nofun) .inr
  | stopped stopped _ _ =>
      obtain ⟨added, events, asking, unanswered⟩ := invoke_unanswered stopped
      exact ⟨added, events, asking, .of_unanswered unanswered⟩

theorem Fails.judged {failure : Failure} (fails : call.Fails root accept world failure last) :
    ∃ added, last.events = world.events ++ added ∧ (∃ files, .asked call files ∈ added) ∧
      call.Judged accept (failure = .emptyAnswer call.step) added := by
  cases fails with
  | rejected answered bad =>
      obtain ⟨added, events, ⟨files, asking⟩, unanswered⟩ := invoke_unanswered answered
      refine ⟨_, by rw [World.events_shows, events, List.append_assoc],
        ⟨files, List.mem_append_left _ asking⟩, ?_⟩
      exact .append (.of_unanswered unanswered) (.answer bad.symm fun _ => rfl) .inr
  | failed failed =>
      obtain ⟨added, events, asking, unanswered⟩ := invoke_unanswered failed
      exact ⟨added, events, asking, .of_unanswered unanswered⟩
  | empty failed =>
      obtain ⟨added, events, asking, unanswered⟩ := invoke_unanswered failed
      exact ⟨added, events, asking, .of_unanswered unanswered⟩

/-- By induction on the attempts that are left: a failed one is given up if it was the last or its
line is refused, and else the next one asks again. -/
theorem tries_judged {left : Nat} {result : Except Stop AgentAnswer}
    (ran : call.tries context accept (left + 1) world = (result, last)) :
    ∃ added, last.events = world.events ++ added ∧ (∃ files, .asked call files ∈ added) ∧
      call.Judged accept (∃ reason, result = .error reason ∧ call.GivesUp context reason)
        added := by
  induction left generalizing world with
  | zero =>
      rcases call.settles_or_fails context.root accept world with
        ⟨_, _, settles⟩ | ⟨failure, _, fails⟩
      · rw [settles.tries] at ran
        cases ran
        exact settles.judged _
      · rw [fails.tries, if_pos rfl] at ran
        cases ran
        obtain ⟨added, events, asking, judged⟩ := fails.judged
        exact ⟨added, events, asking, judged.mono fun empty => ⟨_, rfl, empty ▸ .exhausted⟩⟩
  | succ left ih =>
      rcases call.settles_or_fails context.root accept world with
        ⟨_, _, settles⟩ | ⟨failure, failed, fails⟩
      · rw [settles.tries] at ran
        cases ran
        exact settles.judged _
      · rw [fails.tries, if_neg (by omega)] at ran
        obtain ⟨added, events, ⟨files, asking⟩, judged⟩ := fails.judged
        dsimp only at ran
        split at ran
        · obtain ⟨more, moreEvents, askedAgain, rejudged⟩ := ih ran
          refine ⟨_, by rw [moreEvents, World.events_shows, events, List.append_assoc,
            List.append_assoc], ⟨files, List.mem_append_left _ asking⟩, judged.append ?_ fun _ =>
              .inl ?_⟩
          · exact .append (.of_unanswered (Event.unanswered_line _)) rejudged False.elim
          · exact askedAgain.imp fun files asked => List.mem_append_right _ asked
        · rename_i refused
          cases ran
          refine ⟨added, events, ⟨files, asking⟩, judged.mono ?_⟩
          rintro rfl
          exact ⟨_, rfl, .refused (by simpa using refused)⟩

theorem run_judged {result : Except Stop AgentAnswer}
    (ran : call.run context accept world = (result, last)) :
    ∃ added, last.events = world.events ++ added ∧
      call.Judged accept (∃ reason, result = .error reason ∧ call.GivesUp context reason)
        added := by
  unfold run at ran
  cases allowed : context.policy.attempts with
  | zero =>
      rw [allowed] at ran
      cases ran
      exact ⟨[], (List.append_nil _).symm, .of_unanswered Event.unanswered_nil⟩
  | succ left =>
      rw [allowed] at ran
      obtain ⟨added, events, -, judged⟩ := tries_judged ran
      exact ⟨added, events, judged⟩

/-- An answer that is accepted is the one that the call gives, on the files that it leaves. -/
theorem run_accepted {asked : AgentCall} {answer : AgentAnswer} {files : Folder}
    {added : List Event} {result : Except Stop AgentAnswer}
    (ran : call.run context accept world = (result, last))
    (events : last.events = world.events ++ added)
    (among : .answered asked answer true files ∈ added) :
    result = .ok answer ∧ files = last.files := by
  rcases run_leaves ran with ⟨-, rfl⟩ | ⟨⟨-, tried, attempts, traced⟩, -⟩
  · cases List.self_eq_append_right.mp events
    cases among
  · rw [traced, List.append_assoc] at events
    rw [← List.append_cancel_left events] at among
    rcases List.mem_cons.mp among with impossible | among
    · cases impossible
    rcases List.mem_append.mp among with tries | ends
    · obtain ⟨-, impossible⟩ := attempts _ tries
      cases impossible
    · cases result with
      | ok given =>
          cases List.mem_singleton.mp ends
          exact ⟨rfl, rfl⟩
      | error reason => cases ends

end

end AgentCall

namespace Cycle

open Text

/-! ### Documents that are filled in -/

section
variable {context : CycleContext} {artifact : Artifact} {answer : AgentAnswer}
variable {world last : World} {result : Except Stop Unit}

/-- What is in the place of a document once an answer was to be filled in there: the document that
the answer holds, or nothing is in the file if that has no encoding, and then it breaks down. -/
inductive Leaves (answer : AgentAnswer) : Except Stop Unit → FileContent → Prop
  | document {result : Except Stop Unit}
      (encoded : answer.encodes (documentOf answer.output) = true) :
      Leaves answer result (.text (documentOf answer.output))
  | emptied (unencoded : answer.encodes (documentOf answer.output) = false) :
      Leaves answer (.error (.breakdown .unencodable)) (.text "")

theorem Leaves.content_eq {content : FileContent} (leaves : Leaves answer result content)
    (encoded : answer.encodes (documentOf answer.output) = true) :
    content = .text (documentOf answer.output) := by
  cases leaves with
  | document _ => rfl
  | emptied unencoded => cases unencoded.symm.trans encoded

theorem Leaves.encoded {document : String} (leaves : Leaves answer result (.text document))
    (filled : document ≠ "") : answer.encodes (documentOf answer.output) = true := by
  cases leaves with
  | document encoded => exact encoded
  | emptied _ => exact absurd rfl filled

theorem fillDocument_leaves (missing : world.files.file? artifact.file = none)
    (ran : fillDocument context artifact answer world = (result, last)) {content : FileContent}
    (there : last.files.file? artifact.file = some content) : Leaves answer result content := by
  have absent : (context.folder world).has artifact = false := Folder.file?_eq_none_iff.1 missing
  unfold fillDocument documents at ran
  rw [Run.bind_of_ok (Run.look_apply _ world), if_pos (by simp [absent])] at ran
  rcases putDocument_cases ran with
    ⟨files, encoded, written, rfl, rfl⟩ | ⟨files, unencoded, emptied, rfl, rfl⟩ | ⟨_, rfl, rfl⟩
  · rw [(Folder.file?_writeContent written artifact.file).trans (if_pos rfl)] at there
    cases there
    exact .document encoded
  · rw [(Folder.file?_writeContent emptied artifact.file).trans (if_pos rfl)] at there
    cases there
    exact .emptied unencoded
  · rw [missing] at there
    cases there

/-- Nothing is asked any more once a document is to be filled in, and what is kept of it is no
file. -/
theorem fillDocument_keepDocument (ran : (do
      fillDocument context artifact answer
      keepDocument context artifact answer) world = (result, last)) :
    Guarantee.unanswering.holds world last ∧
      (world.files.file? artifact.file = none → ∀ content,
        last.files.file? artifact.file = some content → Leaves answer result content) := by
  have silent {result : Except Stop Unit} {filled : World}
      (fill : fillDocument context artifact answer world = (result, filled)) :
      Guarantee.unanswering.holds world filled :=
    ⟨[], by rw [(fillDocument_cases fill).2.1, List.append_nil], Event.unanswered_nil⟩
  rcases Run.bind_cases ran with ⟨_, stopped, rfl⟩ | ⟨_, filled, fill, ran⟩
  · exact ⟨silent stopped, fun missing _ there => fillDocument_leaves missing stopped there⟩
  · have quiet : Guarantees .unanswering (keepDocument context artifact answer) :=
      keepDocument_guarantees (.session fun world _ => Guarantee.unanswering.refl world) _ _ _
    have keeping : Guarantees sameFiles (keepDocument context artifact answer) :=
      keepDocument_guarantees (.session fun _ _ => rfl) _ _ _
    refine ⟨Guarantee.unanswering.trans (silent fill) (quiet ran), fun missing _ there => ?_⟩
    rw [show last.files = filled.files from keeping ran] at there
    cases fillDocument_leaves missing fill there with
    | document encoded => exact .document encoded

/-- Whether a document is there at most as an accepted answer leaves it, if it was not in place when
that answer was accepted. -/
def FillsIn (artifact : Artifact) (added : List Event) (result : Except Stop Unit) (last : World) :
    Prop :=
  ∀ {call answer files content}, .answered call answer true files ∈ added →
    files.file? artifact.file = none → last.files.file? artifact.file = some content →
      Leaves answer result content

/-- The answers to a call for a document are judged by whether the document is in place or they say
something, and what is filled in is the one that is accepted. -/
theorem run_judged_filled {call : AgentCall} (ran : (do
      let answer ← call.run context fun files answer =>
        files.isFile artifact.file || saysSomething answer
      fillDocument context artifact answer
      keepDocument context artifact answer) world = (result, last)) :
    ∃ added, last.events = world.events ++ added ∧
      call.Judged (fun files answer => files.isFile artifact.file || saysSomething answer)
        (∃ reason, result = .error reason ∧ call.GivesUp context reason) added ∧
      FillsIn artifact added result last := by
  rcases Run.bind_cases ran with ⟨reason, asked, rfl⟩ | ⟨answer, answered, asked, ran⟩
  · obtain ⟨added, events, judged⟩ := AgentCall.run_judged asked
    refine ⟨added, events, judged.mono fun ⟨_, same, givenUp⟩ => ?_, fun among _ _ => ?_⟩
    · cases same
      exact ⟨_, rfl, givenUp⟩
    · cases (AgentCall.run_accepted asked events among).1
  · obtain ⟨added, events, judged⟩ := AgentCall.run_judged asked
    obtain ⟨⟨more, moreEvents, silent⟩, filled⟩ := fillDocument_keepDocument ran
    refine ⟨added ++ more, by rw [moreEvents, events, List.append_assoc],
      judged.append (.of_unanswered silent) nofun, fun among missing there => ?_⟩
    have given := (List.mem_append.mp among).resolve_right (silent _ _ _ _)
    obtain ⟨same, rfl⟩ := AgentCall.run_accepted asked events given
    cases same
    exact filled missing _ there

theorem writeDocument_judged (ran : writeDocument context artifact world = (result, last)) :
    ∃ (call : AgentCall) (added : List Event), last.events = world.events ++ added ∧
      call.Judged (fun files answer => files.isFile artifact.file || saysSomething answer)
        (∃ reason, result = .error reason ∧ call.GivesUp context reason) added ∧
      FillsIn artifact added result last := by
  let line : Event := .line ("[cyan]Generating " ++ artifact.name ++ "...[/cyan]")
  have opens : Event.Unanswered [line] := Event.unanswered_line _
  rw [writeDocument_eq, Run.bind_of_ok (Run.say_apply _ world), documents,
    Run.bind_of_ok (Run.look_apply _ _)] at ran
  rcases Run.bind_cases ran with ⟨_, stopped, rfl⟩ | ⟨prompt, asking, prompted, ran⟩
  · rw [Run.ofExcept_apply] at stopped
    obtain ⟨-, rfl⟩ := Prod.mk.inj stopped
    exact ⟨documentCall context artifact (context.folder world) "", [line], rfl,
      .of_unanswered opens, fun among => absurd among (opens _ _ _ _)⟩
  · rw [Run.ofExcept_apply] at prompted
    obtain ⟨-, rfl⟩ := Prod.mk.inj prompted
    obtain ⟨added, events, judged, fills⟩ := run_judged_filled ran
    refine ⟨_, [line] ++ added, by rw [events, World.events_shows, List.append_assoc],
      .append (.of_unanswered opens) judged False.elim, fun among missing there => ?_⟩
    exact fills ((List.mem_append.mp among).resolve_left (opens _ _ _ _)) missing there

/-- A document is written from an answer: nothing was in its place when the answer was accepted, the
document that the answer holds has an encoding, and a content is in place when it is done with. -/
structure WritesFrom (context : CycleContext) (artifact : Artifact) (before : World)
    (answer : AgentAnswer) (after : World) (content : FileContent) : Prop where
  ran : ∃ result, writeDocument context artifact before = (result, after)
  accepted : ∃ added call files, after.events = before.events ++ added ∧
    .answered call answer true files ∈ added ∧ files.file? artifact.file = none
  encoded : answer.encodes (documentOf answer.output) = true
  there : after.files.file? artifact.file = some content

/-- What is written from an answer is the document that it holds.  There is something to see in the
answer, but maybe not in the document. -/
theorem WritesFrom.content_eq {content : FileContent}
    (writes : WritesFrom context artifact world answer last content) :
    content = .text (documentOf answer.output) ∧ Text.IsVisible answer.output := by
  obtain ⟨⟨result, ran⟩, ⟨added, call, files, events, among, missing⟩, encoded, there⟩ := writes
  obtain ⟨_, _, same, judged, filled⟩ := writeDocument_judged ran
  rw [events] at same
  cases List.append_cancel_left same
  have left := filled among missing there
  refine ⟨left.content_eq encoded, ?_⟩
  have ruled := (judged.ruled among).2
  rw [Folder.file?_eq_none_iff.1 missing] at ruled
  exact isVisible_iff.2 (by simpa [saysSomething] using ruled)

end

/-! ### Wrapped documents -/

section
variable {output : String} {text body : List Char}

theorem withoutFence_of_unopened (plain : ¬fence <+: dropBlank text) :
    withoutFence text = text := by
  have closed : fencedBody? text = none := by
    unfold fencedBody?
    exact if_neg fun opened => plain (List.isPrefixOf_iff_prefix.mp opened)
  rw [withoutFence, closed, Option.getD_none]

theorem trim_withoutFence (fenced : IsFenced text body) : trim (withoutFence text) = trim body := by
  obtain ⟨found, same, trimmed⟩ := fencedBody?_gives fenced
  rw [withoutFence, same, Option.getD_some, trimmed]

theorem documentOf_of_isFenced (fenced : IsFenced output.toList body) :
    documentOf output = String.ofList (trim body ++ ['\n']) :=
  (isDocumentOf_iff.1 ⟨body, .inl fenced, rfl⟩).symm

theorem documentOf_of_unfenced (plain : ∀ body, ¬IsFenced output.toList body) :
    documentOf output = String.ofList (trim output.toList ++ ['\n']) :=
  (isDocumentOf_iff.1 ⟨_, .inr ⟨plain, rfl⟩, rfl⟩).symm

/-- **A fence around a document makes no difference.**  A document that is wrapped in a fence is
read as it is without one, be there fences in it or not, and a text that begins with no fence is
left alone.  So what is written from an answer that wraps a document is what is written from the
document itself, unless that is in a fence of its own. -/
theorem wrapped_documents_are_alike :
    (∀ text document, IsFenced text document → trim (withoutFence text) = trim document) ∧
      (∀ text, ¬fence <+: dropBlank text → withoutFence text = text) ∧
      ∀ {context : CycleContext} {artifact : Artifact} {before after other last : World}
        {wrapped plain : AgentAnswer} {content written : FileContent},
        WritesFrom context artifact before wrapped after content →
        WritesFrom context artifact other plain last written →
        IsFenced wrapped.output.toList plain.output.toList →
        (∀ body, ¬IsFenced plain.output.toList body) → content = written := by
  refine ⟨fun _ _ => trim_withoutFence, fun _ => withoutFence_of_unopened, ?_⟩
  intro context artifact before after other last wrapped plain content written one two fenced bare
  obtain ⟨rfl, -⟩ := one.content_eq
  obtain ⟨rfl, -⟩ := two.content_eq
  rw [documentOf_of_isFenced fenced, documentOf_of_unfenced bare]

end

end Cycle

namespace TwoTurns

open PlanCycle.Cycle Text

/-- The bare change with a generator that gives texts for answers, in order, and writes no file. -/
def answering (first : String) (others : List String) : World :=
  { bareWorld with agents := fun _ => .ready (replyOf first) (others.map replyOf) }

/-- The world once the generator was asked for the proposal. -/
def proposed (first : String) (others : List String) : World :=
  (writeDocument bareContext .proposal (answering first others)).2

/-- What was answered, whether it was accepted, and whether the proposal was in place. -/
def verdict? : Event → Option (String × Bool × Bool)
  | .answered _ answer accepted files =>
    some (answer.output, accepted, files.isFile (Artifact.file .proposal))
  | _ => none

/-- The verdicts on the answers, and what is in the place of the proposal then. -/
def seen (first : String) (others : List String) :
    List (String × Bool × Bool) × Option FileContent :=
  ((proposed first others).events.filterMap verdict?,
    (proposed first others).files.file? (Artifact.file .proposal))

theorem writesFrom_proposed {first text document : String} {others : List String}
    {verdicts : List (String × Bool × Bool)}
    (same : seen first others = (verdicts, some (.text document))) (filled : document ≠ "")
    (among : (text, true, false) ∈ verdicts) :
    ∃ answer, answer.output = text ∧
      WritesFrom bareContext .proposal (answering first others) answer (proposed first others)
        (.text document) := by
  obtain ⟨rfl, there⟩ := Prod.mk.inj same
  obtain ⟨event, among, judged⟩ := List.mem_filterMap.mp among
  cases event with
  | answered call answer accepted files =>
      obtain ⟨rfl, rfl, missing⟩ : answer.output = text ∧ accepted = true ∧
          files.isFile (Artifact.file .proposal) = false := by
        simpa [verdict?] using judged
      have absent := Folder.file?_eq_none_iff.2 missing
      have traced : (proposed first others).events = (answering first others).events ++ _ :=
        (List.nil_append _).symm
      have ran : writeDocument bareContext .proposal (answering first others) =
          ((writeDocument bareContext .proposal (answering first others)).1,
            proposed first others) := Prod.mk.eta.symm
      obtain ⟨_, added, events, -, fills⟩ := writeDocument_judged ran
      cases List.append_cancel_left (traced.symm.trans events)
      have encoded := (fills among absent there).encoded filled
      exact ⟨answer, rfl, ⟨_, ran⟩, ⟨_, call, files, traced, among, absent⟩, encoded, there⟩
  | _ => cases judged

/-- A document with a fence around it. -/
def wrap (document : String) : String := "```md\n" ++ document ++ "\n```"

theorem isFenced_wrap (document : String) : IsFenced (wrap document).toList document.toList :=
  ⟨[], "md".toList, [], [], by simp, by decide, by simp, by simp, by simp [wrap, fence]⟩

/-- A document that ends with a fence of its own. -/
def plan : String := "# Plan\n\n```\nmake\n```"

set_option maxRecDepth 100000 in
theorem seen_plan :
    seen (wrap plan) [] = ([(wrap plan, true, false)], some (.text (plan ++ "\n"))) ∧
      seen plan [] = ([(plan, true, false)], some (.text (plan ++ "\n"))) := by
  decide +kernel

/-- A plan that ends with a fence is written alike, be it wrapped or not. -/
theorem wrapped_plan_is_alike :
    IsFenced (wrap plan).toList plan.toList ∧
      trim (withoutFence (wrap plan).toList) = trim plan.toList ∧
      ¬fence <+: dropBlank plan.toList ∧ withoutFence plan.toList = plan.toList ∧
      ∃ wrapped plain content written, wrapped.output = wrap plan ∧ plain.output = plan ∧
        WritesFrom bareContext .proposal (answering (wrap plan) []) wrapped
          (proposed (wrap plan) []) content ∧
        WritesFrom bareContext .proposal (answering plan []) plain (proposed plan []) written ∧
        (∀ body, ¬IsFenced plan.toList body) ∧ content = written := by
  obtain ⟨reads, leaves, writes⟩ := wrapped_documents_are_alike
  have fenced := isFenced_wrap plan
  have unopened : ¬fence <+: dropBlank plan.toList := by decide
  have bare (body : List Char) : ¬IsFenced plan.toList body := by
    intro fenced
    obtain ⟨_, impossible, -⟩ := fencedBody?_gives fenced
    cases impossible
  obtain ⟨wrapped, output, one⟩ := writesFrom_proposed seen_plan.1 (by decide) List.mem_cons_self
  obtain ⟨plain, same, two⟩ := writesFrom_proposed seen_plan.2 (by decide) List.mem_cons_self
  refine ⟨fenced, reads _ _ fenced, unopened, leaves _ unopened, wrapped, plain, _, _, output, same,
    one, two, bare, ?_⟩
  exact writes one two (by rwa [output, same]) (by rwa [same])

/-- A document that is in a fence. -/
def fencedPlan : String := "```\n# Plan\n```"

set_option maxRecDepth 100000 in
theorem seen_fencedPlan :
    seen (wrap fencedPlan) [] =
        ([(wrap fencedPlan, true, false)], some (.text "```\n# Plan\n```\n")) ∧
      seen fencedPlan [] = ([(fencedPlan, true, false)], some (.text "# Plan\n")) := by
  decide +kernel

/-- A document that is in a fence keeps it only if it is wrapped in another one. -/
theorem fenced_plan_loses_fence :
    IsFenced (wrap fencedPlan).toList fencedPlan.toList ∧
      ∃ wrapped plain, wrapped.output = wrap fencedPlan ∧ plain.output = fencedPlan ∧
        WritesFrom bareContext .proposal (answering (wrap fencedPlan) []) wrapped
          (proposed (wrap fencedPlan) []) (.text "```\n# Plan\n```\n") ∧
        WritesFrom bareContext .proposal (answering fencedPlan []) plain (proposed fencedPlan [])
          (.text "# Plan\n") ∧
        FileContent.text "```\n# Plan\n```\n" ≠ .text "# Plan\n" := by
  obtain ⟨wrapped, output, one⟩ :=
    writesFrom_proposed seen_fencedPlan.1 (by decide) List.mem_cons_self
  obtain ⟨plain, same, two⟩ := writesFrom_proposed seen_fencedPlan.2 (by decide) List.mem_cons_self
  exact ⟨isFenced_wrap _, wrapped, plain, output, same, one, two, by decide⟩

end TwoTurns

namespace Cycle

open Text

section
variable {output : String} {text : List Char}

/-! ### Blank documents -/

theorem not_isVisible_trimmed_iff : ¬Text.IsVisible (String.ofList (trim text ++ ['\n'])) ↔
    ∀ c ∈ text, isBlank c = true := by
  have newline : isBlank '\n' = true := rfl
  calc ¬Text.IsVisible (String.ofList (trim text ++ ['\n']))
    _ ↔ ∀ c ∈ trim text, isBlank c = true := by simp [Text.IsVisible, newline]
    _ ↔ trim (trim text) = [] := trim_eq_nil_iff.symm
    _ ↔ ∀ c ∈ text, isBlank c = true := by rw [trim_trim, trim_eq_nil_iff]

/-- A document that an answer holds is blank only if the answer is, or wraps blanks. -/
theorem not_isVisible_documentOf_iff (visible : Text.IsVisible output) :
    ¬Text.IsVisible (documentOf output) ↔
      ∃ body, IsFenced output.toList body ∧ ∀ c ∈ body, isBlank c = true := by
  constructor
  · intro unseen
    by_cases fenced : ∃ body, IsFenced output.toList body
    · obtain ⟨body, fenced⟩ := fenced
      rw [documentOf_of_isFenced fenced, not_isVisible_trimmed_iff] at unseen
      exact ⟨body, fenced, unseen⟩
    · rw [documentOf_of_unfenced (not_exists.1 fenced), not_isVisible_trimmed_iff] at unseen
      obtain ⟨c, member, seen⟩ := visible
      cases seen.symm.trans (unseen c member)
  · rintro ⟨body, fenced, blank⟩
    rwa [documentOf_of_isFenced fenced, not_isVisible_trimmed_iff]

end

/-- A document that is in place is left alone. -/
theorem generateMissing_of_has {context : CycleContext} {artifact : Artifact} {world : World}
    (there : (context.folder world).has artifact = true) :
    generateMissing context artifact world =
      (.ok (), world.shows [.line ("[dim]• " ++ artifact.name ++ " exists, skipping[/dim]")]) := by
  unfold generateMissing documents
  rw [Run.bind_of_ok (Run.look_apply _ world), if_pos there]
  rfl

/-- **A blank document was wrapped.**  An answer that is given while no document is in place is
accepted exactly if there is something to see in it.  If not, the agent is asked again, unless the
call has been given up.  What is written from an answer that is accepted is the document that it
holds, and that is blank exactly if the answer is a fence around blanks.  A document without an
encoding is not written: the run stops, and its file is empty if it is there. -/
theorem blank_documents_were_fenced {context : CycleContext} {artifact : Artifact}
    {before after : World} {result : Except Stop Unit}
    (ran : writeDocument context artifact before = (result, after)) :
    (∀ answer content, WritesFrom context artifact before answer after content →
      ∃ document, content = .text document ∧
        (¬Text.IsVisible document ↔
          ∃ body, IsFenced answer.output.toList body ∧ ∀ c ∈ body, isBlank c = true)) ∧
      ∃ added, after.events = before.events ++ added ∧
        ∀ earlier call answer accepted files later,
          added = earlier ++ .answered call answer accepted files :: later →
          files.file? artifact.file = none →
            (accepted = true ↔ Text.IsVisible answer.output) ∧
            (accepted = false → (∃ files, .asked call files ∈ later) ∨
              ∃ reason, result = .error reason ∧ call.GivesUp context reason) ∧
            (accepted = true → result = .ok () →
              ∃ content, WritesFrom context artifact before answer after content) ∧
            (accepted = true → answer.encodes (documentOf answer.output) = false →
              (∃ reason, result = .error reason) ∧
              ∀ content, after.files.file? artifact.file = some content →
                content = .text "") := by
  refine ⟨?_, ?_⟩
  · intro answer content writes
    obtain ⟨rfl, visible⟩ := writes.content_eq
    exact ⟨_, rfl, not_isVisible_documentOf_iff visible⟩
  · obtain ⟨_, added, events, judged, fills⟩ := writeDocument_judged ran
    have written (done : result = .ok ()) :
        ∃ content, after.files.file? artifact.file = some content := by
      subst done
      have there : after.files.isFile artifact.file = true := has_of_writeDocument ran
      exact Folder.isFile_iff.1 there
    refine ⟨added, events, ?_⟩
    rintro earlier call answer accepted files later rfl missing
    have among : .answered call answer accepted files ∈
        earlier ++ Event.answered call answer accepted files :: later :=
      List.mem_append_right _ List.mem_cons_self
    obtain ⟨rfl, ruled⟩ := judged.ruled among
    rw [Folder.file?_eq_none_iff.1 missing] at ruled
    refine ⟨?_, ?_, ?_, ?_⟩
    · rw [ruled, isVisible_iff]
      simp [saysSomething]
    · rintro rfl
      exact judged.again rfl
    · rintro rfl rfl
      obtain ⟨content, there⟩ := written rfl
      cases fills among missing there with
      | document encoded =>
          exact ⟨_, ⟨_, ran⟩, ⟨_, call, files, events, among, missing⟩, encoded, there⟩
    · rintro rfl unencoded
      have emptied (content : FileContent)
          (there : after.files.file? artifact.file = some content) :
          content = .text "" ∧ result = .error (.breakdown .unencodable) := by
        cases fills among missing there with
        | document encoded => cases unencoded.symm.trans encoded
        | emptied _ => exact ⟨rfl, rfl⟩
      refine ⟨?_, fun content there => (emptied content there).1⟩
      cases result with
      | error reason => exact ⟨reason, rfl⟩
      | ok _ =>
          obtain ⟨content, there⟩ := written rfl
          cases (emptied content there).2

end Cycle

namespace TwoTurns

open PlanCycle.Cycle Text

theorem not_isVisible_newline : ¬Text.IsVisible "\n" := by
  rw [isVisible_iff]
  decide

/-- A fence around a blank line. -/
def fencedBlank : String := "```\n\n```"

set_option maxRecDepth 100000 in
theorem seen_fencedBlank :
    seen " " [fencedBlank] =
        ([(" ", false, false), (fencedBlank, true, false)], some (.text "\n")) ∧
      seen fencedBlank [] = ([(fencedBlank, true, false)], some (.text "\n")) ∧
      (writeDocument bareContext .proposal (answering " " [fencedBlank])).1.toOption = some () := by
  decide +kernel

/-- The agent is asked again after a blank answer, and the blanks in a fence that it gives then are
written. -/
theorem fenced_blank_follows_blank :
    ∃ result, writeDocument bareContext .proposal (answering " " [fencedBlank]) =
        (result, proposed " " [fencedBlank]) ∧
      (∃ call answer files earlier later, answer.output = " " ∧ ¬Text.IsVisible answer.output ∧
        (proposed " " [fencedBlank]).events =
          earlier ++ .answered call answer false files :: later ∧
        ∃ files, .asked call files ∈ later) ∧
      ∃ answer document, answer.output = fencedBlank ∧
        WritesFrom bareContext .proposal (answering " " [fencedBlank]) answer
          (proposed " " [fencedBlank]) (.text document) ∧
        ¬Text.IsVisible document ∧
        ∃ body, IsFenced answer.output.toList body ∧ ∀ c ∈ body, isBlank c = true := by
  obtain ⟨verdicts, -, done⟩ := seen_fencedBlank
  -- Stated without evaluation: comparing the two sides would have the run computed.
  have ran : writeDocument bareContext .proposal (answering " " [fencedBlank]) =
      ((writeDocument bareContext .proposal (answering " " [fencedBlank])).1,
        proposed " " [fencedBlank]) := Prod.mk.eta.symm
  obtain ⟨blank, added, events, judged⟩ := blank_documents_were_fenced ran
  have own : (proposed " " [fencedBlank]).events = added := events
  refine ⟨_, ran, ?_, ?_⟩
  · have rejected := (Prod.mk.inj verdicts).1
    rw [own] at rejected
    obtain ⟨earlier, event, later, rfl, -, first, -⟩ := List.filterMap_eq_cons_iff.mp rejected
    cases event with
    | answered call answer accepted files =>
        obtain ⟨output, rfl, missing⟩ : answer.output = " " ∧ accepted = false ∧
            files.isFile (Artifact.file .proposal) = false := by
          simpa [verdict?] using first
        obtain ⟨shown, again, -⟩ := judged _ _ _ _ _ _ rfl (Folder.file?_eq_none_iff.2 missing)
        refine ⟨call, answer, files, earlier, later, output, fun visible => ?_, own, ?_⟩
        · cases shown.2 visible
        · rcases again rfl with asked | ⟨_, stopped, -⟩
          · exact asked
          · rw [stopped] at done
            cases done
    | _ => cases first
  · obtain ⟨answer, output, writes⟩ :=
      writesFrom_proposed verdicts (by decide) (List.mem_cons_of_mem _ List.mem_cons_self)
    obtain ⟨document, same, wrapped⟩ := blank answer _ writes
    cases same
    exact ⟨answer, _, output, writes, not_isVisible_newline, wrapped.1 not_isVisible_newline⟩

/-- A fence around a blank line is written as a document that is blank and in place from then on. -/
theorem fenced_blank_is_in_place :
    ∃ answer, answer.output = fencedBlank ∧
      WritesFrom bareContext .proposal (answering fencedBlank []) answer (proposed fencedBlank [])
        (.text "\n") ∧
      ¬Text.IsVisible "\n" ∧
      generateMissing bareContext .proposal (proposed fencedBlank []) =
        (.ok (), (proposed fencedBlank []).shows
          [.line "[dim]• proposal exists, skipping[/dim]"]) := by
  obtain ⟨answer, output, writes⟩ :=
    writesFrom_proposed seen_fencedBlank.2.1 (by decide) List.mem_cons_self
  refine ⟨answer, output, writes, not_isVisible_newline, ?_⟩
  have there : (bareContext.folder (proposed fencedBlank [])).has .proposal = true :=
    Folder.isFile_iff.2 ⟨_, writes.there⟩
  have line : "[dim]• " ++ Artifact.name .proposal ++ " exists, skipping[/dim]" =
      "[dim]• proposal exists, skipping[/dim]" := by decide
  rw [generateMissing_of_has there, line]

end TwoTurns

end PlanCycle
