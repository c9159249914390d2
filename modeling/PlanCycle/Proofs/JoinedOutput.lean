/-
Module: PlanCycle.Proofs.JoinedOutput
Purpose: What is read of two outputs of an agent's program, one behind the other: the objects of
  both and, by the rules of the provider, the sums of their counts and the texts of both.  Lines
  between them that hold no object change nothing.
Main exports:
  Text.splitLines_append_of_whole, AgentOutput.IsNoise, AgentOutput.Interspersed,
  AgentOutput.read_interspersed, AgentOutput.AddsUp, AgentOutput.joined_output_adds_up
-/
import Mathlib.Data.List.Induction
import PlanCycle.Proofs.ReadableOutput

namespace PlanCycle

open Number Text

namespace Text

theorem splitLines_ne_nil {text : List Char} (filled : text ≠ []) : splitLines text ≠ [] := by
  unfold splitLines
  split
  · exact absurd rfl filled
  · exact List.cons_ne_nil _ _
  · split
    · exact List.cons_ne_nil _ _
    · split <;> exact List.cons_ne_nil _ _

theorem splitLines_newline (front rest : List Char) :
    splitLines (front ++ '\n' :: rest) = splitLines (front ++ ['\n']) ++ splitLines rest := by
  -- Only a lone carriage return is paired with the line feed behind it.
  have apart {c : Char} {front : List Char} (other : c ≠ '\r' ∨ front ≠ [])
      (unpaired : ∀ after, c = '\r' → front = '\n' :: after → False) (rest after : List Char)
      (carriage : c = '\r') (feed : front ++ '\n' :: rest = '\n' :: after) : False := by
    cases front with
    | nil => exact other.elim (· carriage) (· rfl)
    | cons d front =>
        obtain ⟨rfl, -⟩ := List.cons.inj feed
        exact unpaired front carriage rfl
  have within {c : Char} {front : List Char} (unbroken : ¬isLineBreak c = true)
      (same : splitLines (front ++ '\n' :: rest) =
        splitLines (front ++ ['\n']) ++ splitLines rest) :
      splitLines (c :: front ++ '\n' :: rest) =
        splitLines (c :: front ++ ['\n']) ++ splitLines rest := by
    have isLine : IsLine [c] := by simpa [IsLine] using unbroken
    obtain ⟨line, lines, cut⟩ := List.exists_cons_of_ne_nil
      (splitLines_ne_nil (List.append_ne_nil_of_right_ne_nil front (List.cons_ne_nil '\n' [])))
    rw [cut] at same
    have shorter := splitLines_append isLine cut
    have longer := splitLines_append isLine same
    rw [List.singleton_append] at shorter longer
    rw [List.cons_append, List.cons_append, longer, shorter]
    rfl
  induction front using splitLines.induct with
  | case1 => rfl
  | case2 front ih => exact congrArg ([] :: ·) ih
  | case3 c front unpaired isBreak ih =>
      by_cases other : c ≠ '\r' ∨ front ≠ []
      · rw [List.cons_append, List.cons_append, splitLines.eq_3 _ _ (apart other unpaired rest),
          splitLines.eq_3 _ _ (apart other unpaired []), if_pos isBreak, if_pos isBreak, ih]
        rfl
      · obtain ⟨rfl, rfl⟩ : c = '\r' ∧ front = [] := by simpa using other
        rfl
  | case4 _ _ _ unbroken _ ih => exact within unbroken ih
  | case5 _ _ _ unbroken _ _ _ ih => exact within unbroken ih

/-- Behind whole lines the lines of what follows stand as they are. -/
theorem splitLines_append_of_whole {text : List Char} (whole : HasWholeLines text)
    (rest : List Char) : splitLines (text ++ rest) = splitLines text ++ splitLines rest := by
  rcases whole with rfl | last
  · rfl
  · obtain ⟨front, rfl⟩ := List.getLast?_eq_some_iff.mp last
    rw [List.append_assoc, List.singleton_append, splitLines_newline]

end Text

namespace AgentOutput

/-! ### Lines that hold no object -/

/-- Whether a line is passed over: it holds no object, and no numeral that is too long to look for
one. -/
structure IsNoise (line : List Char) : Prop where
  no_object : object? line = none
  short : ¬HasLongNumeral line

/-- Whether lines are some others with lines between them that hold no object. -/
inductive Interspersed : (lines longer : List (List Char)) → Prop
  | nil : Interspersed [] []
  | keep (line : List Char) {lines longer : List (List Char)} (later : Interspersed lines longer) :
      Interspersed (line :: lines) (line :: longer)
  | noise {line : List Char} (isNoise : IsNoise line) {lines longer : List (List Char)}
      (later : Interspersed lines longer) : Interspersed lines (line :: longer)

/-- In a line that is no longer than a whole number may be no numeral is too long. -/
theorem not_hasLongNumeral_of_length_le {line : List Char} (few : line.length ≤ numeralLimit) :
    ¬HasLongNumeral line := by
  intro long
  obtain ⟨run, -, many, stands⟩ := long.hasLongRun
  have fits := stands.length_le
  omega

theorem IsNoise.lineEvent {line : List Char} (isNoise : IsNoise line) :
    lineEvent line = .ok none := by
  rcases lineEvent_eq line with ⟨long, -⟩ | ⟨-, read⟩
  · exact absurd long isNoise.short
  · rw [read, isNoise.no_object]

/-- Of interspersed lines the same objects are read. -/
theorem Interspersed.lineEvents {lines longer : List (List Char)}
    (interspersed : Interspersed lines longer) : lineEvents longer = lineEvents lines := by
  induction interspersed with
  | nil => rfl
  | keep line later ih => rw [AgentOutput.lineEvents, AgentOutput.lineEvents, ih]
  | noise isNoise later ih => rw [lineEvents_of_none isNoise.lineEvent, ih]

theorem Interspersed.refl (lines : List (List Char)) : Interspersed lines lines := by
  induction lines with
  | nil => exact .nil
  | cons line lines ih => exact .keep line ih

/-- Lines without objects may be put between any others. -/
theorem Interspersed.insert {noise : List (List Char)} (isNoise : ∀ line ∈ noise, IsNoise line)
    (before behind : List (List Char)) :
    Interspersed (before ++ behind) (before ++ (noise ++ behind)) := by
  induction before with
  | nil =>
      induction noise with
      | nil => exact .refl behind
      | cons line noise ih =>
          obtain ⟨here, others⟩ := List.forall_mem_cons.mp isNoise
          exact .noise here (ih others)
  | cons line before ih => exact .keep line ih

/-- Whole lines without objects may be put between the lines of a text. -/
theorem interspersed_text {before noise : List Char} (first : HasWholeLines before)
    (within : HasWholeLines noise) (isNoise : ∀ line ∈ splitLines noise, IsNoise line)
    (behind : List Char) :
    Interspersed (splitLines (before ++ behind)) (splitLines (before ++ (noise ++ behind))) := by
  rw [splitLines_append_of_whole first, splitLines_append_of_whole first,
    splitLines_append_of_whole within]
  exact .insert isNoise _ _

/-- Output with objects is read as before if lines without objects are put between its lines. -/
theorem read_interspersed {provider : Provider} {stdout noisy : String}
    (some_object : objectsOf stdout.toList ≠ [])
    (interspersed : Interspersed (splitLines stdout.toList) (splitLines noisy.toList)) :
    read provider noisy = read provider stdout := by
  have same : eventsOf noisy.toList = eventsOf stdout.toList := interspersed.lineEvents
  unfold read
  rw [same]
  cases found : eventsOf stdout.toList with
  | error fault => rfl
  | ok events =>
      obtain ⟨-, rfl⟩ := eventsOf_ok_iff.mp found
      cases objects : objectsOf stdout.toList with
      | nil => exact absurd objects some_object
      | cons event events => rfl

/-! ### Two outputs, one behind the other -/

theorem objectsOf_append {first : List Char} (whole : HasWholeLines first) (second : List Char) :
    objectsOf (first ++ second) = objectsOf first ++ objectsOf second := by
  unfold objectsOf
  rw [splitLines_append_of_whole whole, List.filterMap_append]

theorem IsReadable.append {provider : Provider} {first second : String}
    (whole : HasWholeLines first.toList) (one : IsReadable provider first)
    (two : IsReadable provider second) : IsReadable provider (first ++ second) where
  short := by
    rw [String.toList_append, splitLines_append_of_whole whole, List.forall_mem_append]
    exact ⟨one.short, two.short⟩
  usable := by
    rw [String.toList_append, objectsOf_append whole, List.forall_mem_append]
    exact ⟨one.usable, two.usable⟩

theorem totals_append (first second : List (Int × Int)) :
    totals (first ++ second) =
      ((totals first).1 + (totals second).1, (totals first).2 + (totals second).2) := by
  induction second using List.reverseRecOn with
  | nil => simp [totals]
  | append_singleton second count ih =>
      rw [← List.append_assoc, totals_snoc, ih, totals_snoc]
      simp only [Int.add_assoc]

/-- The counts that codex reports of two streams are added up. -/
theorem reported_append (first second : List Json) :
    reported .codex (first ++ second) =
      ((reported .codex first).1 + (reported .codex second).1,
        (reported .codex first).2 + (reported .codex second).2) := by
  simp only [reported, ofKind, List.filter_append, List.map_append, totals_append]

theorem codexMessages_append (first second : List Json) :
    codexMessages (first ++ second) = codexMessages first ++ codexMessages second := by
  simp only [codexMessages, ofKind, List.filter_append, List.map_append, List.filterMap_append]

theorem ownMessages_append (first second : List Json) :
    ownMessages (first ++ second) = ownMessages first ++ ownMessages second :=
  List.filter_append _ _

/-- How what is read of two outputs adds up to what is read of both, one behind the other. -/
structure AddsUp (provider : Provider) (first second both : AgentOutput) : Prop where
  events : both.events = first.events ++ second.events
  counts : provider = .codex →
    both.inputTokens = first.inputTokens + second.inputTokens ∧
      both.outputTokens = first.outputTokens + second.outputTokens
  messages : provider = .codex →
    first.text = "\n\n".intercalate (codexMessages first.events) ∧
      second.text = "\n\n".intercalate (codexMessages second.events) ∧
      both.text =
        "\n\n".intercalate (codexMessages first.events ++ codexMessages second.events)
  text : provider = .gemini → both.text = first.text ++ second.text

/-- What two outputs say adds up to what both say. -/
theorem Says.addsUp {provider : Provider} {first second : String} {a b both : AgentOutput}
    (whole : HasWholeLines first.toList) (one : Says provider first a)
    (two : Says provider second b) (all : Says provider (first ++ second) both)
    (some_objects : objectsOf first.toList ≠ [] ∧ objectsOf second.toList ≠ []) :
    AddsUp provider a b both := by
  have joined : objectsOf (first ++ second).toList =
      objectsOf first.toList ++ objectsOf second.toList := by
    rw [String.toList_append, objectsOf_append whole]
  have some_object : objectsOf (first ++ second).toList ≠ [] := by
    rw [joined]
    exact List.append_ne_nil_of_left_ne_nil some_objects.1 _
  have told_one := one.told some_objects.1
  have told_two := two.told some_objects.2
  have told_all := all.told some_object
  rw [joined] at told_all
  refine ⟨?events, ?counts, ?messages, ?text⟩
  case events => rw [all.events, joined, one.events, two.events]
  case counts =>
    rintro rfl
    have counted := all.counts
    rw [joined, reported_append, ← one.counts, ← two.counts] at counted
    exact ⟨congrArg Prod.fst counted, congrArg Prod.snd counted⟩
  case messages =>
    rintro rfl
    have said := CodexReport.text told_all
    rw [codexMessages_append] at said
    rw [one.events, two.events]
    exact ⟨CodexReport.text told_one, CodexReport.text told_two, said⟩
  case text =>
    rintro rfl
    have said := GeminiReport.text told_all
    rw [ownMessages_append, List.map_append, String.join_append, ← GeminiReport.text told_one,
      ← GeminiReport.text told_two] at said
    exact said

/-- **Output adds up.**  Of two readable outputs with objects, the first of whole lines, the objects
of both are read, one after the other; so for codex the counts add up and the messages of the second
output follow those of the first, and for gemini its text does.  Lines that hold no object and no
numeral that is too long, put anywhere between the lines of an output, change nothing that is read
of it, for no provider. -/
theorem joined_output_adds_up (provider : Provider) :
    (∀ first second : String, HasWholeLines first.toList →
      (objectsOf first.toList ≠ [] ∧ objectsOf second.toList ≠ []) →
      IsReadable provider first → IsReadable provider second →
      ∃ a b both, read provider first = .ok a ∧ read provider second = .ok b ∧
        read provider (first ++ second) = .ok both ∧ AddsUp provider a b both) ∧
    ∀ stdout noisy : String, objectsOf stdout.toList ≠ [] →
      Interspersed (splitLines stdout.toList) (splitLines noisy.toList) →
      read provider noisy = read provider stdout := by
  constructor
  · intro first second whole some_objects one two
    obtain ⟨a, read_one⟩ := read_iff_readable.mpr one
    obtain ⟨b, read_two⟩ := read_iff_readable.mpr two
    obtain ⟨both, read_both⟩ := read_iff_readable.mpr (one.append whole two)
    exact ⟨a, b, both, read_one, read_two, read_both,
      (says_of_read read_one).addsUp whole (says_of_read read_two) (says_of_read read_both)
        some_objects⟩
  · intro stdout noisy some_object interspersed
    exact read_interspersed some_object interspersed

end AgentOutput

namespace EventLine

open AgentOutput

variable {provider : Provider} {stream : List EventLine}

/-- The objects of plain lines are those that are written on them. -/
theorem objectsOf_stdout (plain : ∀ event ∈ stream, event.IsPlain provider) :
    objectsOf (stdout stream).toList = stream.map object :=
  (eventsOf_ok_iff.mp (eventsOf_stdout plain)).2.symm

/-- A stream of plain lines is readable. -/
theorem isReadable_stdout (plain : ∀ event ∈ stream, event.IsPlain provider) :
    IsReadable provider (stdout stream) where
  short := (eventsOf_ok_iff.mp (eventsOf_stdout plain)).1
  usable := by
    rw [objectsOf_stdout plain]
    intro event member
    obtain ⟨line, among, rfl⟩ := List.mem_map.mp member
    exact hasReadableCounts_iff.mp (plain line among).finite.readable

theorem hasWholeLines_stdout (stream : List EventLine) : HasWholeLines (stdout stream).toList := by
  rw [stdout, String.toList_ofList]
  exact hasWholeLines_ended _

end EventLine

namespace SmallStream

open AgentOutput

/-- The rest of an answer: one message. -/
def answerEnd : List EventLine :=
  [single]

theorem answerEnd_isPlain : ∀ event ∈ answerEnd, event.IsPlain .gemini := by
  intro event member
  rw [List.mem_singleton.mp member]
  exact ⟨by decide, message_short _ _, by decide⟩

/-- A line of progress, an empty line, an array and the first half of an object. -/
def noise : List (List Char) :=
  ["working ...".toList, [], "[12, 3]".toList, "\x7b\"content\": \"four".toList]

/-- A message goes on behind other lines, and the answer holds all of it. -/
theorem answer_goes_on :
    (HasWholeLines (EventLine.stdout escapedStream).toList ∧
      IsReadable .gemini (EventLine.stdout escapedStream) ∧
        IsReadable .gemini (EventLine.stdout answerEnd) ∧ ∀ line ∈ noise, IsNoise line) ∧
      ∃ both, read .gemini (EventLine.stdout escapedStream ++
          (String.ofList (ended noise) ++ EventLine.stdout answerEnd)) = .ok both ∧
        both.text = "one\u2028two three" ++ " three" := by
  obtain ⟨joins, widens⟩ := joined_output_adds_up .gemini
  have whole := EventLine.hasWholeLines_stdout escapedStream
  have one := EventLine.isReadable_stdout escapedStream_isPlain
  have two := EventLine.isReadable_stdout answerEnd_isPlain
  have objects_one := EventLine.objectsOf_stdout escapedStream_isPlain
  have objects_two := EventLine.objectsOf_stdout answerEnd_isPlain
  have some_one : objectsOf (EventLine.stdout escapedStream).toList ≠ [] := by
    rw [objects_one]
    exact List.cons_ne_nil _ _
  have some_two : objectsOf (EventLine.stdout answerEnd).toList ≠ [] := by
    rw [objects_two]
    exact List.cons_ne_nil _ _
  obtain ⟨a, b, both, read_one, read_two, read_both, adds⟩ :=
    joins _ _ whole ⟨some_one, some_two⟩ one two
  have isNoise : ∀ line ∈ noise, IsNoise line := by
    have held : ∀ line ∈ noise, (object? line).isNone = true ∧ line.length ≤ numeralLimit := by
      decide +kernel
    intro line member
    exact ⟨Option.isNone_iff_eq_none.mp (held line member).1,
      not_hasLongNumeral_of_length_le (held line member).2⟩
  have some_both : objectsOf (EventLine.stdout escapedStream ++
      EventLine.stdout answerEnd).toList ≠ [] := by
    rw [String.toList_append, objectsOf_append whole]
    exact List.append_ne_nil_of_left_ne_nil some_one _
  have cut : splitLines (ended noise) = noise := splitLines_ended (by decide +kernel)
  have within := interspersed_text whole (hasWholeLines_ended noise) (cut.symm ▸ isNoise)
    (EventLine.stdout answerEnd).toList
  have same := widens _ (EventLine.stdout escapedStream ++
      (String.ofList (ended noise) ++ EventLine.stdout answerEnd)) some_both
    (by simpa only [String.toList_append, String.toList_ofList] using within)
  refine ⟨⟨whole, one, two, isNoise⟩, both, same.trans read_both, ?_⟩
  have said_one : a.text = "one\u2028two three" :=
    (GeminiReport.text ((says_of_read read_one).told some_one)).trans (by rw [objects_one]; rfl)
  have said_two : b.text = " three" :=
    (GeminiReport.text ((says_of_read read_two).told some_two)).trans (by rw [objects_two]; rfl)
  rw [adds.text rfl, said_one, said_two]

/-- An object that breaks off within a number of 4301 digits. -/
def brokenLine : List Char :=
  "\x7b\"input_tokens\": ".toList ++ List.replicate 4301 '9'

theorem isLine_brokenLine : IsLine brokenLine := .append (by decide) fun c member => by
  rw [List.eq_of_mem_replicate member]
  decide

theorem trim_brokenLine : trim brokenLine = brokenLine := by
  have begins : brokenLine = '\x7b' :: ("\"input_tokens\": ".toList ++ List.replicate 4301 '9') := by
    unfold brokenLine
    rw [String.toList_ofList, String.toList_ofList]
    rfl
  have ends : brokenLine = "\x7b\"input_tokens\": ".toList ++ List.replicate 4300 '9' ++ ['9'] := by
    rw [List.append_assoc, ← List.replicate_succ']
    rfl
  exact (IsValue.of_ends isLine_brokenLine begins ends (by decide) (by decide)).trimmed

theorem hasLongNumeral_brokenLine : HasLongNumeral brokenLine := by
  unfold HasLongNumeral
  rw [trim_brokenLine]
  have refused : (Json.parse brokenLine).map (fun _ => ()) = .error .longNumeral := by
    decide +kernel
  refine ⟨by decide +kernel, ?_⟩
  cases found : Json.parse brokenLine with
  | error fault =>
      rw [found] at refused
      exact congrArg Except.error (Except.error.inj refused)
  | ok value =>
      rw [found] at refused
      cases refused

/-- A line that is no object, put between two outputs, loses what both of them say. -/
theorem broken_number_loses_output :
    (∀ fields, ¬Json.IsText (.object fields) brokenLine) ∧
      (∃ both, read .gemini (EventLine.stdout escapedStream ++ EventLine.stdout answerEnd) =
        .ok both) ∧
      ¬∃ both, read .gemini (EventLine.stdout escapedStream ++
        (String.ofList (ended [brokenLine]) ++ EventLine.stdout answerEnd)) = .ok both := by
  have whole := EventLine.hasWholeLines_stdout escapedStream
  have one := EventLine.isReadable_stdout escapedStream_isPlain
  have two := EventLine.isReadable_stdout answerEnd_isPlain
  refine ⟨fun fields isText => ?_, read_iff_readable.mpr (one.append whole two),
    fun found => ?_⟩
  · have unclosed : '\x7d' ∉ brokenLine :=
      List.not_mem_append (by decide) fun member => by
        have digit := List.eq_of_mem_replicate member
        cases digit
    generalize brokenLine = line at isText unclosed
    cases isText with
    | spaced _ writes _ =>
        obtain ⟨inner, rfl⟩ := writes.braces
        exact unclosed (by simp)
  · refine (read_iff_readable.mp found).short brokenLine ?_ hasLongNumeral_brokenLine
    rw [String.toList_append, String.toList_append, String.toList_ofList,
      splitLines_append_of_whole whole, ended_cons, List.append_assoc,
      List.cons_append, splitLines_line isLine_brokenLine]
    exact List.mem_append_right _ List.mem_cons_self

end SmallStream

end PlanCycle
