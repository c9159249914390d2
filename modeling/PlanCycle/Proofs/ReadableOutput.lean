/-
Module: PlanCycle.Proofs.ReadableOutput
Purpose: Which output of an agent's program can be read: all output but that with a whole number of
  too many digits in an object, or with an infinite or undefined number where tokens are counted.
  What is read then is what the output says.
Main exports:
  AgentOutput.objectsOf, AgentOutput.HasUsableCounts, AgentOutput.IsReadable, AgentOutput.Says,
  AgentSetup.answer_iff_readable
-/
import PlanCycle.Agent.Process
import PlanCycle.Proofs.EventStream
import PlanCycle.Proofs.JsonFaults

namespace PlanCycle

open Number Text

namespace AgentOutput

/-! ### The objects that lines hold -/

/-- Whether a value is an object. -/
def isObject : Json → Bool
  | .object _ => true
  | _ => false

/-- The object that a line holds between blanks. -/
def object? (line : List Char) : Option Json :=
  (Json.parse (trim line)).toOption.filter isObject

/-- The objects that the lines of a text hold. -/
def objectsOf (text : List Char) : List Json :=
  (splitLines text).filterMap object?

/-- Whether a line that begins like an object is refused for a numeral that is too long. -/
def HasLongNumeral (line : List Char) : Prop :=
  (trim line).head? = some '\x7b' ∧ Json.parse (trim line) = .error .longNumeral

theorem HasLongNumeral.hasLongRun {line : List Char} (long : HasLongNumeral line) :
    Json.HasLongRun line :=
  (Json.hasLongRun_of_parse long.2).mono (trim_isInfix line)

/-- What stands between blanks and is an object begins with a brace. -/
theorem brace_of_trimmed {line : List Char} {fields : List (String × Json)}
    (read : Json.parse (trim line) = .ok (.object fields)) :
    (trim line).head? = some '\x7b' := by
  have brace := Json.brace_of_parse read
  cases cut : trim line with
  | nil =>
      rw [cut] at brace
      cases brace
  | cons c rest =>
      have unspaced : Json.isSpace c = false := by
        cases spaced : Json.isSpace c with
        | false => rfl
        | true =>
            have blank := Json.isBlank_of_isSpace spaced
            rw [visible_of_trim cut] at blank
            cases blank
      rwa [cut, Json.skipSpace_of_visible unspaced] at brace

/-- A line holds the object that is read of it, unless a numeral is too long. -/
theorem lineEvent_eq (line : List Char) :
    (HasLongNumeral line ∧ lineEvent line = .error .longNumeral) ∨
      (¬HasLongNumeral line ∧ lineEvent line = .ok (object? line)) := by
  unfold lineEvent HasLongNumeral object?
  dsimp only
  by_cases brace : (trim line).head? = some '\x7b'
  · rw [if_neg (not_not.mpr brace)]
    cases read : Json.parse (trim line) with
    | error fault =>
        cases fault with
        | longNumeral => exact .inl ⟨⟨brace, rfl⟩, rfl⟩
        | malformed =>
            refine .inr ⟨fun long => ?_, rfl⟩
            cases long.2
    | ok found =>
        refine .inr ⟨fun long => ?_, ?_⟩
        · cases long.2
        · cases found <;> rfl
  · rw [if_pos brace]
    refine .inr ⟨fun long => brace long.1, ?_⟩
    cases read : Json.parse (trim line) with
    | error fault => rfl
    | ok found =>
        cases found with
        | object fields => exact absurd (brace_of_trimmed read) brace
        | _ => rfl

/-- The objects of lines are read unless a numeral is too long in one of them. -/
theorem lineEvents_ok_iff {lines : List (List Char)} {events : List Json} :
    lineEvents lines = .ok events ↔
      (∀ line ∈ lines, ¬HasLongNumeral line) ∧ events = lines.filterMap object? := by
  induction lines generalizing events with
  | nil => simp [lineEvents, eq_comm]
  | cons line lines ih =>
      rw [lineEvents, List.forall_mem_cons]
      rcases lineEvent_eq line with ⟨long, refused⟩ | ⟨short, read⟩
      · rw [refused]
        refine ⟨fun same => ?_, fun read => absurd long read.1.1⟩
        cases same
      · have joined : lines.filterMap object? = [] ++ lines.filterMap object? := rfl
        have whole : (line :: lines).filterMap object? =
            (object? line).toList ++ lines.filterMap object? := by
          cases held : object? line <;> simp [held]
        rw [read, whole]
        cases later : lineEvents lines with
        | error fault =>
            refine ⟨fun same => ?_, fun read => ?_⟩
            · cases same
            · rw [ih.mpr ⟨read.1.2, rfl⟩] at later
              cases later
        | ok found =>
            obtain ⟨others, rfl⟩ := ih.mp later
            constructor
            · intro same
              cases same
              exact ⟨⟨short, others⟩, rfl⟩
            · rintro ⟨-, rfl⟩
              rfl

theorem eventsOf_ok_iff {text : List Char} {events : List Json} :
    eventsOf text = .ok events ↔
      (∀ line ∈ splitLines text, ¬HasLongNumeral line) ∧ events = objectsOf text :=
  lineEvents_ok_iff

/-! ### The counts that objects report -/

/-- Whether a value is a number. -/
def isNumber : Json → Bool
  | .int _ | .float _ => true
  | _ => false

/-- The value that is counted: that of the first field if it is a number, else that of the other
field. -/
def countField (payload : Json) (name other : String) : Json :=
  if isNumber (field name payload) then field name payload else field other payload

/-- The tokens that a value stands for: a number without its fraction; what is no number, or none
that can be used, counts as zero. -/
def amount : Json → Int
  | .int n => n
  | .float x => x.truncate?.getD 0
  | _ => 0

/-- The numbers of tokens that an object reports, zero where it reports none. -/
def amounts (payload : Json) : Int × Int :=
  (amount (countField payload "input_tokens" "prompt_tokens"),
    amount (countField payload "output_tokens" "completion_tokens"))

/-- Whether no number that an event reports as a count is infinite or undefined. -/
def HasUsableCounts (provider : Provider) (event : Json) : Prop :=
  fieldIs "type" (countsOf provider).1 event = true →
    isFinite (countField (field (countsOf provider).2 event) "input_tokens" "prompt_tokens") =
        true ∧
      isFinite (countField (field (countsOf provider).2 event) "output_tokens"
        "completion_tokens") = true

instance (provider : Provider) (event : Json) : Decidable (HasUsableCounts provider event) :=
  inferInstanceAs (Decidable (_ → _))

theorem count?_cases (value : Json) :
    (isFinite value = true ∧ count? value =
      .ok (if isNumber value then some (amount value) else none)) ∨
      (isFinite value = false ∧ isNumber value = true ∧ ∃ fault, count? value = .error fault) := by
  cases value with
  | float x =>
      cases x with
      | finite negative mantissa exponent => exact .inl ⟨rfl, rfl⟩
      | infinite negative => exact .inr ⟨rfl, rfl, _, rfl⟩
      | nan => exact .inr ⟨rfl, rfl, _, rfl⟩
  | _ => exact .inl ⟨rfl, rfl⟩

theorem amount_of_not_isNumber {value : Json} (other : isNumber value = false) :
    amount value = 0 := by
  cases value with
  | int n => cases other
  | float x => cases other
  | _ => rfl

/-- A count is read as its amount if it is finite, and not at all otherwise. -/
theorem countOf_cases (payload : Json) (name other : String) :
    (isFinite (countField payload name other) = true ∧
      countOf payload name other = .ok (amount (countField payload name other))) ∨
      (isFinite (countField payload name other) = false ∧
        ∃ fault, countOf payload name other = .error fault) := by
  unfold countField countOf
  rcases count?_cases (field name payload) with ⟨finite, read⟩ | ⟨infinite, number, fault, read⟩
  · rw [read]
    cases number : isNumber (field name payload) with
    | true => exact .inl ⟨finite, rfl⟩
    | false =>
        simp only [Bool.false_eq_true, if_false]
        rcases count?_cases (field other payload) with ⟨usable, found⟩ | ⟨unusable, _, fault, found⟩
        · refine .inl ⟨usable, ?_⟩
          rw [found]
          cases counted : isNumber (field other payload) with
          | true => rfl
          | false =>
              rw [amount_of_not_isNumber counted]
              rfl
        · rw [found]
          exact .inr ⟨unusable, fault, rfl⟩
  · rw [number, read]
    exact .inr ⟨infinite, fault, rfl⟩

theorem field_of_no_object {payload : Json} (other : ∀ fields, payload ≠ .object fields)
    (name : String) : field name payload = .null := by
  cases payload with
  | object fields => exact absurd rfl (other fields)
  | _ => rfl

/-- The counts of an object are read as its amounts if they are finite, and not at all
otherwise. -/
theorem tokens_ok_iff {payload : Json} {counts : Int × Int} :
    tokens payload = .ok counts ↔
      (isFinite (countField payload "input_tokens" "prompt_tokens") = true ∧
        isFinite (countField payload "output_tokens" "completion_tokens") = true) ∧
      counts = amounts payload := by
  unfold tokens amounts
  split
  · rename_i fields
    rcases countOf_cases (.object fields) "input_tokens" "prompt_tokens" with
      ⟨finite, read⟩ | ⟨infinite, fault, read⟩
    · rw [read, finite]
      rcases countOf_cases (.object fields) "output_tokens" "completion_tokens" with
        ⟨also, readOutput⟩ | ⟨infinite, fault, readOutput⟩
      · rw [readOutput, also]
        simp [bind, Except.bind, eq_comm]
      · rw [readOutput, infinite]
        simp [bind, Except.bind]
    · rw [read, infinite]
      simp [bind, Except.bind]
  · rename_i other
    have absent := field_of_no_object fun fields same => other fields same
    simp [countField, absent, isNumber, isFinite, amount, eq_comm]

theorem hasReadableCounts_iff {provider : Provider} {event : Json} :
    HasReadableCounts provider event ↔ HasUsableCounts provider event := by
  unfold HasReadableCounts HasUsableCounts
  refine forall_congr' fun _ => ?_
  simp only [tokens_ok_iff, exists_and_left, exists_eq, and_true]

/-! ### What output says -/

theorem exists_ok_of_bind {α β : Type} {given : Except OutputFault α}
    {next : α → Except OutputFault β} {value : β} (ended : (given >>= next) = .ok value) :
    ∃ first, given = .ok first := by
  cases given with
  | ok first => exact ⟨first, rfl⟩
  | error fault => cases ended

/-- The step of a provider's stream. -/
def step : Provider → AgentOutput → Json → Except OutputFault AgentOutput
  | .gemini => stepGemini
  | .codex => stepCodex
  | .claude => stepClaude

/-- An event is taken into account only if its counts can be read. -/
theorem hasReadableCounts_of_step {provider : Provider} {output after : AgentOutput} {event : Json}
    (taken : step provider output event = .ok after) : HasReadableCounts provider event := by
  intro counted
  cases provider with
  | gemini =>
      have noInit := fieldIs_other counted "init" (by decide)
      have noMessage := fieldIs_other counted "message" (by decide)
      have counted : fieldIs "type" "result" event = true := counted
      unfold step stepGemini at taken
      simp only [noInit, noMessage, counted, Bool.false_and, Bool.false_eq_true, if_false,
        if_true] at taken
      exact exists_ok_of_bind taken
  | codex =>
      have noStart := fieldIs_other counted "thread.started" (by decide)
      have counted : fieldIs "type" "turn.completed" event = true := counted
      unfold step stepCodex at taken
      simp only [noStart, counted, Bool.false_eq_true, if_false, if_true] at taken
      exact exists_ok_of_bind taken
  | claude =>
      have counted : fieldIs "type" "result" event = true := counted
      unfold step stepClaude at taken
      simp only [counted, if_true] at taken
      exact exists_ok_of_bind taken

theorem hasReadableCounts_of_foldlM {provider : Provider} {events : List Json}
    {start output : AgentOutput} (read : events.foldlM (step provider) start = .ok output) :
    ∀ event ∈ events, HasReadableCounts provider event := by
  induction events generalizing start with
  | nil => exact List.forall_mem_nil _
  | cons event events ih =>
      rw [List.foldlM_cons] at read
      obtain ⟨after, taken⟩ := exists_ok_of_bind read
      rw [taken] at read
      exact List.forall_mem_cons.mpr ⟨hasReadableCounts_of_step taken, ih read⟩

/-- The events of a stream say something exactly if their counts can be read. -/
theorem ofEvents_ok_iff {provider : Provider} {events : List Json} :
    (∃ output, ofEvents provider events = .ok output) ↔
      ∀ event ∈ events, HasReadableCounts provider event := by
  constructor
  · rintro ⟨output, read⟩
    cases provider with
    | gemini => exact hasReadableCounts_of_foldlM read
    | codex =>
        obtain ⟨folded, went⟩ := exists_ok_of_bind read
        exact hasReadableCounts_of_foldlM went
    | claude => exact hasReadableCounts_of_foldlM read
  · intro readable
    obtain ⟨output, read, _⟩ := ofEvents_of_readable readable
    exact ⟨output, read⟩

/-- The numbers of tokens that some events report: the sums over all turns of codex, else those of
the last result. -/
def reported (provider : Provider) (events : List Json) : Int × Int :=
  let counts := (ofKind (countsOf provider).1 events).map fun event =>
    amounts (field (countsOf provider).2 event)
  match provider with
  | .codex => totals counts
  | _ => counts.getLast?.getD (0, 0)

/-- What is read of output: its objects and what they say by the rules of the provider, or the text
as it is if there are none. -/
structure Says (provider : Provider) (stdout : String) (output : AgentOutput) : Prop where
  events : output.events = objectsOf stdout.toList
  plain : objectsOf stdout.toList = [] → output.text = stdout
  told : objectsOf stdout.toList ≠ [] → Reports provider (objectsOf stdout.toList) output
  counts : (output.inputTokens, output.outputTokens) =
    reported provider (objectsOf stdout.toList)

/-- Whether output can be read: no numeral of its objects is too long, and the numbers that are
taken for counts are neither infinite nor undefined. -/
structure IsReadable (provider : Provider) (stdout : String) : Prop where
  short : ∀ line ∈ splitLines stdout.toList, ¬HasLongNumeral line
  usable : ∀ event ∈ objectsOf stdout.toList, HasUsableCounts provider event

theorem lastCounts_eq {name : String} {events : List Json} {counts : Int × Int}
    (read : lastCounts name events = .ok counts) :
    counts = ((events.map fun event => amounts (field name event)).getLast?).getD (0, 0) := by
  unfold lastCounts at read
  rw [List.getLast?_map]
  cases last : events.getLast? with
  | none =>
      rw [last] at read
      cases read
      rfl
  | some event =>
      rw [last] at read
      exact (tokens_ok_iff.mp read).2

theorem mapM_tokens_eq {name : String} {events : List Json} {counts : List (Int × Int)}
    (read : events.mapM (fun event => tokens (field name event)) = .ok counts) :
    counts = events.map fun event => amounts (field name event) := by
  induction events generalizing counts with
  | nil =>
      cases read
      rfl
  | cons event events ih =>
      rw [List.mapM_cons] at read
      obtain ⟨first, here⟩ := exists_ok_of_bind read
      rw [here] at read
      have rest : (events.mapM (fun event => tokens (field name event)) >>= fun others =>
          pure (first :: others)) = .ok counts := read
      obtain ⟨others, later⟩ := exists_ok_of_bind rest
      rw [later] at rest
      cases rest
      rw [List.map_cons, (tokens_ok_iff.mp here).2, ih later]

/-- The counts of a report are the amounts that the events give. -/
theorem Reports.counts_eq {provider : Provider} {events : List Json} {output : AgentOutput}
    (reports : Reports provider events output) :
    (output.inputTokens, output.outputTokens) = reported provider events := by
  cases provider with
  | gemini => exact lastCounts_eq reports.counts
  | codex =>
      obtain ⟨counts, read, summed⟩ := reports.counts
      rw [summed, mapM_tokens_eq read]
      rfl
  | claude => exact lastCounts_eq reports.counts

theorem read_ok_iff {provider : Provider} {stdout : String} {output : AgentOutput} :
    read provider stdout = .ok output ↔
      (∀ line ∈ splitLines stdout.toList, ¬HasLongNumeral line) ∧
        (if objectsOf stdout.toList = [] then (.ok { text := stdout } : Except OutputFault _)
          else ofEvents provider (objectsOf stdout.toList)) = .ok output := by
  unfold read
  cases found : eventsOf stdout.toList with
  | error fault =>
      refine ⟨fun same => ?_, fun read => ?_⟩
      · cases same
      · rw [eventsOf_ok_iff.mpr ⟨read.1, rfl⟩] at found
        cases found
  | ok events =>
      obtain ⟨short, same⟩ := eventsOf_ok_iff.mp found
      rw [← same]
      cases events with
      | nil =>
          rw [if_pos rfl]
          exact ⟨fun read => ⟨short, read⟩, fun read => read.2⟩
      | cons event events =>
          rw [if_neg (List.cons_ne_nil _ _)]
          exact ⟨fun read => ⟨short, read⟩, fun read => read.2⟩

/-- Readable output is read as what it says, and other output is not read. -/
theorem read_iff_readable {provider : Provider} {stdout : String} :
    (∃ output, read provider stdout = .ok output) ↔ IsReadable provider stdout := by
  simp only [read_ok_iff, exists_and_left]
  constructor
  · rintro ⟨short, output, said⟩
    refine ⟨short, fun event member => ?_⟩
    rw [if_neg (List.ne_nil_of_mem member)] at said
    exact hasReadableCounts_iff.mp (ofEvents_ok_iff.mp ⟨output, said⟩ event member)
  · rintro ⟨short, usable⟩
    refine ⟨short, ?_⟩
    split
    · exact ⟨_, rfl⟩
    · exact ofEvents_ok_iff.mpr fun event member => hasReadableCounts_iff.mpr (usable event member)

theorem says_of_read {provider : Provider} {stdout : String} {output : AgentOutput}
    (found : read provider stdout = .ok output) : Says provider stdout output := by
  obtain ⟨short, said⟩ := read_ok_iff.mp found
  split at said
  · rename_i none
    cases said
    refine ⟨none.symm, fun _ => rfl, fun some_objects => absurd none some_objects, ?_⟩
    rw [none]
    cases provider <;> rfl
  · rename_i some_objects
    obtain ⟨other, again, same, reports⟩ :=
      ofEvents_of_readable (ofEvents_ok_iff.mp ⟨output, said⟩)
    obtain rfl := Except.ok.inj (said.symm.trans again)
    exact ⟨same, fun none => absurd none some_objects, fun _ => reports, reports.counts_eq⟩

end AgentOutput

open AgentOutput

/-- **What a finished agent answers.**  The output of a program that ended well gives an answer
exactly if it is readable; so it does if no more digits stand in a row than a whole number may have
and no infinite or undefined number is taken for a count.  The answer keeps the output, and its text
and its counts are what the output says, with zero for a count that is no number. -/
theorem AgentSetup.answer_iff_readable (setup : AgentSetup) (words : List String)
    (stdout stderr : String) :
    ((∃ answer, setup.answer words (.exited 0 stdout stderr) = .ok answer) ↔
      IsReadable setup.provider stdout) ∧
    (¬Json.HasLongRun stdout.toList →
      (∀ event ∈ objectsOf stdout.toList, HasUsableCounts setup.provider event) →
      IsReadable setup.provider stdout) ∧
    ∀ answer, setup.answer words (.exited 0 stdout stderr) = .ok answer →
      answer.rawOutput = stdout ∧
        ∃ output, Says setup.provider stdout output ∧ answer.output = output.text ∧
          answer.sessionId = output.sessionId ∧
          (answer.inputTokens, answer.outputTokens) =
            reported setup.provider (objectsOf stdout.toList) := by
  have answered : setup.answer words (.exited 0 stdout stderr) =
      (setup.answerOf stdout).mapError fun fault => .breakdown (.output fault) := rfl
  refine ⟨?_, fun short usable => ⟨fun line member long => ?_, usable⟩, fun answer same => ?_⟩
  · rw [← read_iff_readable, answered]
    unfold answerOf
    cases AgentOutput.read setup.provider stdout with
    | error fault => simp [bind, Except.bind, Except.mapError]
    | ok output => simp [bind, Except.bind, Except.mapError]
  · exact short (long.hasLongRun.mono (mem_splitLines member).1)
  · rw [answered] at same
    unfold answerOf at same
    cases found : AgentOutput.read setup.provider stdout with
    | error fault =>
        rw [found] at same
        cases same
    | ok output =>
        rw [found] at same
        cases same
        have told := says_of_read found
        exact ⟨rfl, output, told, rfl, rfl, told.counts⟩

namespace ShortResult

/-- Output with one result, in which a text stands for the first count. -/
def stdout : String :=
  "\x7b\"type\": \"result\", \"result\": \"done\", \"usage\": \x7b\"input_tokens\": \"many\", \"output_tokens\": 3\x7d\x7d"

theorem not_hasLongRun_stdout : ¬Json.HasLongRun stdout.toList := by
  rintro ⟨run, -, many, stands⟩
  have short : stdout.toList.length ≤ numeralLimit := by
    unfold stdout
    rw [String.toList_ofList]
    decide +kernel
  have fits := stands.length_le
  omega

/-- An agent whose program writes such output. -/
def setup : AgentSetup :=
  { role := .implementer, provider := .claude, model := "opus", timeout := 60, command := "claude" }

/-- A count that is a text counts as zero, and the text of the result is kept. -/
theorem textual_count_is_zero :
    ¬Json.HasLongRun stdout.toList ∧
      (∀ event ∈ objectsOf stdout.toList, HasUsableCounts setup.provider event) ∧
      ∃ answer, setup.answer ["claude"] (.exited 0 stdout "") = .ok answer ∧
        answer.output = "done" ∧ answer.inputTokens = 0 ∧ answer.outputTokens = 3 := by
  obtain ⟨answered, readable, kept⟩ := setup.answer_iff_readable ["claude"] stdout ""
  -- The objects are found in the characters, so that these are not decoded for each evaluation.
  have spelled : stdout.toList = _ := String.toList_ofList
  have usable : ∀ event ∈ objectsOf stdout.toList, HasUsableCounts setup.provider event := by
    rw [spelled]
    decide +kernel
  obtain ⟨answer, same⟩ := answered.mpr (readable not_hasLongRun_stdout usable)
  obtain ⟨-, output, told, text, -, counts⟩ := kept answer same
  have some_object : (objectsOf stdout.toList).isEmpty = false := by
    rw [spelled]
    decide +kernel
  have reports : ClaudeReport (objectsOf stdout.toList) output :=
    told.told (List.isEmpty_eq_false_iff.mp some_object)
  have said : output.text = "done" := by
    rw [reports.text, spelled]
    decide +kernel
  have totals : reported setup.provider (objectsOf stdout.toList) = (0, 3) := by
    rw [spelled]
    decide +kernel
  rw [totals] at counts
  exact ⟨not_hasLongRun_stdout, usable, answer, same, text.trans said,
    congrArg Prod.fst counts, congrArg Prod.snd counts⟩

end ShortResult

/-- A count beyond the range of floating-point numbers loses the whole answer, its text included. -/
theorem AgentOutput.infinite_count_loses_text :
    AgentOutput.read .claude
        "\x7b\"type\":\"result\",\"result\":\"done\",\"usage\":\x7b\"input_tokens\":1e999\x7d\x7d" =
      .error .infinite := by
  generalize written : AgentOutput.read .claude
    "\x7b\"type\":\"result\",\"result\":\"done\",\"usage\":\x7b\"input_tokens\":1e999\x7d\x7d" = given
  have refused : given.map (fun _ => ()) = .error .infinite := by
    rw [← written]
    unfold AgentOutput.read
    rw [String.toList_ofList]
    decide +kernel
  cases given with
  | error fault => exact congrArg Except.error (Except.error.inj refused)
  | ok output => cases refused

end PlanCycle
