/-
Module: PlanCycle.Proofs.EventStream
Purpose: Output that consists of JSON objects, one a line, is read as exactly these objects, and
  text, session and counts are what they say.
Main exports:
  AgentOutput.eventsOf_object, AgentOutput.Reports, AgentOutput.ofEvents_reports, EventLine,
  EventLine.stream_is_read_whole
-/
import PlanCycle.Agent.Output
import PlanCycle.Proofs.JsonReading
import PlanCycle.Proofs.Lines

namespace PlanCycle

open Text

/-! ### Lines that hold an object -/

namespace Text

/-- Blanks after a text are cut off, and nothing else. -/
theorem trim_spaced {inner after : List Char} {c d : Char}
    (isAfter : ∀ c ∈ after, isBlank c = true) (first : isBlank c = false)
    (last : isBlank d = false) : trim (c :: (inner ++ [d]) ++ after) = c :: (inner ++ [d]) := by
  have reversed : (c :: (inner ++ [d]) ++ after).reverse =
      after.reverse ++ d :: (c :: inner).reverse := by simp
  have blank : ∀ c ∈ after.reverse, isBlank c = true := by simpa using isAfter
  unfold trim trimOf trimStartOf trimEndOf
  rw [List.cons_append, List.dropWhile_cons_of_neg (by simp [first]), ← List.cons_append, reversed,
    List.dropWhile_append_of_pos blank, List.dropWhile_cons_of_neg (by simp [last])]
  simp

end Text

namespace Json

theorem isBlank_of_isSpace {c : Char} (space : isSpace c = true) : isBlank c = true := by
  have blank : ∀ c ∈ [' ', '\t', '\n', '\r'], isBlank c = true :=
    List.all_iff_forall_prop.mp (by decide)
  exact blank c (by simpa [isSpace, or_assoc] using space)

theorem WritesFields.ends {fields : List (String × Json)} {text : List Char}
    (writes : WritesFields fields text) : ∃ front, text = front ++ ['\x7d'] := by
  induction fields generalizing text with
  | nil => cases writes
  | cons field fields ih =>
      cases writes with
      | @last _ text gap _ _ => exact ⟨text ++ gap, by simp⟩
      | @more _ _ text gap next _ _ _ _ later =>
          obtain ⟨front, rfl⟩ := ih later
          exact ⟨text ++ (gap ++ ',' :: (next ++ front)), by simp⟩

/-- An object is written between braces. -/
theorem Writes.braces {fields : List (String × Json)} {text : List Char}
    (writes : Writes (.object fields) text) :
    ∃ inner, text = '\x7b' :: (inner ++ ['\x7d']) := by
  match writes with
  | .number numeral => nomatch numeral
  | @Writes.emptyObject gap _ => exact ⟨gap, rfl⟩
  | @Writes.object gap _ _ _ fields _ =>
      obtain ⟨front, rfl⟩ := fields.ends
      exact ⟨gap ++ front, by simp⟩

end Json

namespace AgentOutput

theorem lineEvent_of_blank {line : List Char} (blank : ∀ c ∈ line, isBlank c = true) :
    lineEvent line = .ok none := by
  have cut : (line ++ []).dropWhile isBlank = [] := List.dropWhile_append_of_pos blank
  rw [List.append_nil] at cut
  simp [lineEvent, trim, trimOf, trimStartOf, trimEndOf, cut]

theorem lineEvents_of_none {line : List Char} (none : lineEvent line = .ok none)
    (lines : List (List Char)) : lineEvents (line :: lines) = lineEvents lines := by
  rw [lineEvents, none]
  cases lineEvents lines <;> rfl

/-- Space before a line changes nothing, and a line of nothing but space holds no event. -/
theorem eventsOf_space {c : Char} (space : Json.isSpace c = true) (text : List Char) :
    eventsOf (c :: text) = eventsOf text := by
  have empty : lineEvent [] = .ok none := rfl
  unfold eventsOf
  rw [splitLines.eq_def]
  split
  · rename_i none
    cases none
  · rename_i rest same
    obtain ⟨rfl, rfl⟩ := List.cons.inj same
    have newline : splitLines ('\n' :: rest) = [] :: splitLines rest := rfl
    rw [newline, lineEvents_of_none empty]
  · rename_i d rest _ same
    obtain ⟨rfl, rfl⟩ := List.cons.inj same
    split
    · exact lineEvents_of_none empty _
    split
    · rename_i nothing
      rw [nothing]
      exact lineEvents_of_none (lineEvent_of_blank (by simp [Json.isBlank_of_isSpace space])) []
    · rename_i line lines first
      have trimmed : trim (c :: line) = trim line := by
        simp [trim, trimOf, trimStartOf, Json.isBlank_of_isSpace space]
      have same : lineEvent (c :: line) = lineEvent line := by
        simp only [lineEvent, trimmed]
      rw [first, lineEvents, same, lineEvents]

theorem eventsOf_gap {gap : List Char} (isGap : Json.IsGap gap) (text : List Char) :
    eventsOf (gap ++ text) = eventsOf text := by
  induction gap with
  | nil => rfl
  | cons c gap ih =>
      obtain ⟨space, others⟩ := List.forall_mem_cons.mp isGap
      rw [List.cons_append, eventsOf_space space, ih others]

/-- After an object and space, what stands before the end of the line is blank. -/
theorem splitLines_gap {gap : List Char} (isGap : Json.IsGap gap) (rest : List Char) :
    ∃ line lines, splitLines (gap ++ '\n' :: rest) = line :: lines ∧
      ∀ c ∈ line, isBlank c = true := by
  have none : ∀ c ∈ ([] : List Char), isBlank c = true := by
    intro c member
    cases member
  induction gap with
  | nil => exact ⟨[], splitLines rest, rfl, none⟩
  | cons c gap ih =>
      obtain ⟨space, others⟩ := List.forall_mem_cons.mp isGap
      obtain ⟨line, lines, cut, blank⟩ := ih others
      rw [List.cons_append, splitLines.eq_def]
      split
      · rename_i same
        cases same
      · exact ⟨[], _, rfl, none⟩
      · rename_i d after _ same
        obtain ⟨rfl, rfl⟩ := List.cons.inj same
        split
        · exact ⟨[], _, rfl, none⟩
        · rw [cut]
          exact ⟨c :: line, lines, rfl,
            List.forall_mem_cons.mpr ⟨Json.isBlank_of_isSpace space, blank⟩⟩

/-- A line without an object is passed over, whichever character ends it. -/
theorem eventsOf_of_none {line : List Char} (isLine : IsLine line)
    (none : lineEvent line = .ok none) {c : Char} (ends : isLineBreak c = true) (other : c ≠ '\r')
    (rest : List Char) : eventsOf (line ++ c :: rest) = eventsOf rest := by
  have cut : splitLines (c :: rest) = [] :: splitLines rest := by
    rw [splitLines.eq_3 _ _ fun _ same => absurd same other, if_pos ends]
  rw [eventsOf, splitLines_append isLine cut, List.append_nil, lineEvents_of_none none, eventsOf]

/-- An object that is written without line breaks is read, and then what follows its line. -/
theorem eventsOf_object {fields : List (String × Json)} {before body after : List Char}
    (isBefore : Json.IsGap before) (isAfter : Json.IsGap after)
    (writes : Json.Writes (.object fields) body) (isLine : IsLine body)
    (short : (Json.object fields).HasShortNumerals) {rest : List Char} {events : List Json}
    (read : eventsOf rest = .ok events) :
    eventsOf (before ++ (body ++ after) ++ '\n' :: rest) = .ok (.object fields :: events) := by
  obtain ⟨line, lines, cut, blank⟩ := splitLines_gap isAfter rest
  have later : lineEvents lines = .ok events := by
    calc lineEvents lines
      _ = eventsOf (after ++ '\n' :: rest) := by
          rw [eventsOf, cut, lineEvents_of_none (lineEvent_of_blank blank)]
      _ = .ok events := by rw [eventsOf_gap isAfter, eventsOf_space rfl, read]
  have parsed := Json.parse_of_isText writes.isText short
  obtain ⟨inner, rfl⟩ := writes.braces
  have own : lineEvent ('\x7b' :: (inner ++ ['\x7d']) ++ line) = .ok (some (.object fields)) := by
    unfold lineEvent
    rw [trim_spaced blank rfl rfl]
    simp [parsed]
  rw [List.append_assoc, List.append_assoc, eventsOf_gap isBefore, eventsOf,
    splitLines_append isLine cut, lineEvents, own, later]
  rfl

/-! ### What the events of a stream say -/

/-- The events of one kind. -/
def ofKind (kind : String) (events : List Json) : List Json :=
  events.filter (fieldIs "type" kind)

/-- The messages that come from the agent itself. -/
def ownMessages (events : List Json) : List Json :=
  events.filter fun event => fieldIs "type" "message" event && isOwnMessage event

/-- The last of some values that says something. -/
def lastSaid (values : List Json) : Json :=
  ((values.filter Json.isPresent).getLast?).getD .null

/-- The counts that the last of some events reports in a field; none are zero. -/
def lastCounts (name : String) (events : List Json) : Except OutputFault (Int × Int) :=
  match events.getLast? with
  | some event => tokens (field name event)
  | none => .ok (0, 0)

/-- What gemini says: its messages put together, and the counts of the last result. -/
structure GeminiReport (events : List Json) (output : AgentOutput) : Prop where
  text : output.text =
    String.join ((ownMessages events).map fun message => contentText (field "content" message))
  sessionId : output.sessionId = lastSaid ((ofKind "init" events).map (field "session_id"))
  model : output.model = lastSaid ((ofKind "init" events).map (field "model"))
  counts : lastCounts "stats" (ofKind "result" events) =
    .ok (output.inputTokens, output.outputTokens)

/-- The texts of the messages that codex finished. -/
def codexMessages (events : List Json) : List String :=
  (((ofKind "item.completed" events).map (field "item")).filter
    (fieldIs "type" "agent_message")).filterMap fun item => (field "text" item).text?

/-- The sums of some counts. -/
def totals (counts : List (Int × Int)) : Int × Int :=
  counts.foldl (fun total count => (total.1 + count.1, total.2 + count.2)) (0, 0)

/-- What codex says: its messages with an empty line between them, and the sums of the counts of
all turns. -/
structure CodexReport (events : List Json) (output : AgentOutput) : Prop where
  text : output.text = "\n\n".intercalate (codexMessages events)
  sessionId : output.sessionId =
    lastSaid ((ofKind "thread.started" events).map (field "thread_id"))
  model : output.model = .null
  counts : ∃ counts,
    (ofKind "turn.completed" events).mapM (fun turn => tokens (field "usage" turn)) = .ok counts ∧
      (output.inputTokens, output.outputTokens) = totals counts

/-- What claude says: its last result. -/
structure ClaudeReport (events : List Json) (output : AgentOutput) : Prop where
  text : output.text =
    (((ofKind "result" events).getLast?).bind fun result => (field "result" result).text?).getD ""
  sessionId : output.sessionId = lastSaid ((ofKind "result" events).map (field "session_id"))
  model : output.model = .null
  counts : lastCounts "usage" (ofKind "result" events) =
    .ok (output.inputTokens, output.outputTokens)

/-- Whether output says what the events of a provider's stream say. -/
def Reports : Provider → List Json → AgentOutput → Prop
  | .gemini => GeminiReport
  | .codex => CodexReport
  | .claude => ClaudeReport

/-- The kind of the events that report counts, and the field that holds them. -/
def countsOf : Provider → String × String
  | .gemini => ("result", "stats")
  | .codex => ("turn.completed", "usage")
  | .claude => ("result", "usage")

/-- Whether a value is no number beyond the range of floating-point numbers. -/
def isFinite : Json → Bool
  | .float (.finite ..) => true
  | .float _ => false
  | _ => true

/-- Whether the counts that an event reports are finite. -/
def HasFiniteCounts (provider : Provider) (event : Json) : Prop :=
  fieldIs "type" (countsOf provider).1 event = true →
    ∀ name ∈ ["input_tokens", "prompt_tokens", "output_tokens", "completion_tokens"],
      isFinite (field name (field (countsOf provider).2 event)) = true

instance (provider : Provider) (event : Json) : Decidable (HasFiniteCounts provider event) :=
  inferInstanceAs (Decidable (_ → _))

/-- Whether the counts that an event reports can be read. -/
def HasReadableCounts (provider : Provider) (event : Json) : Prop :=
  fieldIs "type" (countsOf provider).1 event = true →
    ∃ counts, tokens (field (countsOf provider).2 event) = .ok counts

/-! ### One event more -/

@[simp] theorem ofKind_nil (kind : String) : ofKind kind [] = [] := rfl

theorem ofKind_snoc (kind : String) (seen : List Json) (event : Json) :
    ofKind kind (seen ++ [event]) =
      ofKind kind seen ++ if fieldIs "type" kind event then [event] else [] := by
  simp only [ofKind, List.filter_append, List.filter_cons, List.filter_nil]

@[simp] theorem ownMessages_nil : ownMessages [] = [] := rfl

theorem ownMessages_snoc (seen : List Json) (event : Json) :
    ownMessages (seen ++ [event]) =
      ownMessages seen ++
        if fieldIs "type" "message" event && isOwnMessage event then [event] else [] := by
  simp only [ownMessages, List.filter_append, List.filter_cons, List.filter_nil]

@[simp] theorem lastSaid_nil : lastSaid [] = .null := rfl

@[simp] theorem lastSaid_snoc (values : List Json) (value : Json) :
    lastSaid (values ++ [value]) = orElse value (lastSaid values) := by
  cases said : value.isPresent <;> simp [lastSaid, orElse, said]

@[simp] theorem lastCounts_nil (name : String) : lastCounts name [] = .ok (0, 0) := rfl

@[simp] theorem lastCounts_snoc (name : String) (events : List Json) (event : Json) :
    lastCounts name (events ++ [event]) = tokens (field name event) := by
  simp [lastCounts]

theorem totals_snoc (counts : List (Int × Int)) (count : Int × Int) :
    totals (counts ++ [count]) = ((totals counts).1 + count.1, (totals counts).2 + count.2) := by
  simp only [totals, List.foldl_append, List.foldl_cons, List.foldl_nil]

/-- An event is of one kind only. -/
theorem fieldIs_other {name text : String} {value : Json} (same : fieldIs name text value = true)
    (other : String) (differs : text ≠ other) : fieldIs name other value = false := by
  unfold fieldIs at same ⊢
  split at same
  · obtain rfl := eq_of_beq same
    simpa using differs
  · cases same

theorem count?_of_finite {value : Json} (finite : isFinite value = true) :
    ∃ count, count? value = .ok count := by
  cases value with
  | float x =>
      cases x with
      | finite _ _ _ => exact ⟨_, rfl⟩
      | _ => cases finite
  | _ => exact ⟨_, rfl⟩

theorem countOf_of_finite {payload : Json} {name other : String}
    (first : isFinite (field name payload) = true)
    (second : isFinite (field other payload) = true) :
    ∃ count, countOf payload name other = .ok count := by
  obtain ⟨own, read⟩ := count?_of_finite first
  obtain ⟨instead, readInstead⟩ := count?_of_finite second
  unfold countOf
  rw [read]
  cases own with
  | some n => exact ⟨n, rfl⟩
  | none =>
      refine ⟨instead.getD 0, ?_⟩
      simp [readInstead, bind, Except.bind, pure, Except.pure]

/-- Finite counts can be read. -/
theorem HasFiniteCounts.readable {provider : Provider} {event : Json}
    (finite : HasFiniteCounts provider event) : HasReadableCounts provider event := by
  intro isCounted
  have each := finite isCounted
  simp only [List.mem_cons, List.not_mem_nil, or_false, forall_eq_or_imp, forall_eq] at each
  obtain ⟨input, prompt, output, completion⟩ := each
  obtain ⟨n, readInput⟩ := countOf_of_finite input prompt
  obtain ⟨m, readOutput⟩ := countOf_of_finite output completion
  unfold tokens
  split
  · rename_i isObject
    rw [readInput, readOutput]
    exact ⟨(n, m), rfl⟩
  · exact ⟨(0, 0), rfl⟩

variable {seen : List Json} {event : Json} {output : AgentOutput}

theorem stepGemini_reports (report : GeminiReport seen output)
    (readable : HasReadableCounts .gemini event) :
    ∃ after, stepGemini output event = .ok after ∧ after.events = output.events ∧
      GeminiReport (seen ++ [event]) after := by
  obtain ⟨text, sessionId, model, counts⟩ := report
  unfold stepGemini
  split
  · rename_i isInit
    have noMessage := fieldIs_other isInit "message" (by decide)
    have noResult := fieldIs_other isInit "result" (by decide)
    refine ⟨_, rfl, rfl, ?_, ?_, ?_, ?_⟩ <;>
      simp [ofKind_snoc, ownMessages_snoc, isInit, noMessage, noResult, text, sessionId, model,
        counts]
  split
  · rename_i noInit isOwn
    have noResult := fieldIs_other (Bool.and_eq_true_iff.mp isOwn).1 "result" (by decide)
    refine ⟨_, rfl, rfl, ?_, ?_, ?_, ?_⟩ <;>
      simp only [ofKind_snoc, ownMessages_snoc, isOwn, if_true, noInit, noResult] <;>
      simp [text, sessionId, model, counts]
  split
  · rename_i noInit notOwn isResult
    obtain ⟨⟨input, out⟩, read⟩ := readable isResult
    have read : tokens (field "stats" event) = .ok (input, out) := read
    refine ⟨{ output with inputTokens := input, outputTokens := out }, ?_, rfl, ?_, ?_, ?_, ?_⟩
    · rw [read]
      rfl
    all_goals
      simp [ofKind_snoc, ownMessages_snoc, noInit, notOwn, isResult, text, sessionId, model, read]
  · rename_i noInit notOwn noResult
    refine ⟨_, rfl, rfl, ?_, ?_, ?_, ?_⟩ <;>
      simp [ofKind_snoc, ownMessages_snoc, noInit, notOwn, noResult, text, sessionId, model, counts]

/-- The output with the messages of codex as its text. -/
def withMessages (events : List Json) (output : AgentOutput) : AgentOutput :=
  { output with
    text := "\n\n".intercalate (codexMessages events)
    isWhole := (events.filterMap codexMessage?).all Json.isWhole }

theorem stepCodex_reports (report : CodexReport seen (output.withMessages seen))
    (readable : HasReadableCounts .codex event) :
    ∃ after, stepCodex output event = .ok after ∧ after.events = output.events ∧
      CodexReport (seen ++ [event]) (after.withMessages (seen ++ [event])) := by
  obtain ⟨-, sessionId, model, counts, read, summed⟩ := report
  simp only [withMessages] at sessionId model summed
  unfold stepCodex
  split
  · rename_i isStart
    have noTurn := fieldIs_other isStart "turn.completed" (by decide)
    refine ⟨_, rfl, rfl, rfl, ?_, model, counts, ?_, summed⟩
    · simp [ofKind_snoc, withMessages, isStart, sessionId]
    · simpa [ofKind_snoc, noTurn] using read
  split
  · rename_i noStart isTurn
    obtain ⟨⟨n, m⟩, used⟩ := readable isTurn
    have used : tokens (field "usage" event) = .ok (n, m) := used
    refine ⟨{ output with
      inputTokens := output.inputTokens + n
      outputTokens := output.outputTokens + m }, ?_, rfl, rfl, ?_, model, counts ++ [(n, m)],
        ?_, ?_⟩
    · rw [used]
      rfl
    · simp [ofKind_snoc, withMessages, noStart, sessionId]
    · simp [ofKind_snoc, isTurn, List.mapM_append, read, used, bind, Except.bind, pure, Except.pure]
    · rw [totals_snoc, ← summed]
      rfl
  · rename_i noStart noTurn
    refine ⟨_, rfl, rfl, rfl, ?_, model, counts, ?_, summed⟩
    · simp [ofKind_snoc, withMessages, noStart, sessionId]
    · simpa [ofKind_snoc, noTurn] using read

theorem codexMessages_eq (events : List Json) :
    (events.filterMap codexMessage?).filterMap Json.text? = codexMessages events := by
  induction events with
  | nil => rfl
  | cons event events ih =>
      simp only [codexMessages, ofKind, List.filterMap_filterMap] at ih ⊢
      rw [List.filterMap_cons, ih]
      cases item : fieldIs "type" "item.completed" event <;>
        cases message : fieldIs "type" "agent_message" (field "item" event) <;>
          simp [codexMessage?, item, message, List.filterMap_cons]

theorem stepClaude_reports (report : ClaudeReport seen output)
    (readable : HasReadableCounts .claude event) :
    ∃ after, stepClaude output event = .ok after ∧ after.events = output.events ∧
      ClaudeReport (seen ++ [event]) after := by
  obtain ⟨text, sessionId, model, counts⟩ := report
  unfold stepClaude
  split
  · rename_i isResult
    obtain ⟨⟨n, m⟩, used⟩ := readable isResult
    have used : tokens (field "usage" event) = .ok (n, m) := used
    refine ⟨{ output with
      text := ((field "result" event).text?).getD ""
      isWhole := (field "result" event).isWhole
      sessionId := orElse (field "session_id" event) output.sessionId
      inputTokens := n, outputTokens := m }, ?_, rfl, ?_, ?_, model, ?_⟩
    · rw [used]
      rfl
    all_goals simp [ofKind_snoc, isResult, sessionId, used]
  · rename_i noResult
    refine ⟨output, rfl, rfl, ?_, ?_, model, ?_⟩ <;>
      simp [ofKind_snoc, noResult, text, sessionId, counts]

/-- What each event keeps true of the output so far is true of all events in the end. -/
theorem foldlM_reports {step : AgentOutput → Json → Except OutputFault AgentOutput}
    (Told : List Json → AgentOutput → Prop) {start : AgentOutput} (begins : Told [] start)
    {events : List Json}
    (each : ∀ event ∈ events, ∀ seen output, Told seen output →
      ∃ after, step output event = .ok after ∧ after.events = output.events ∧
        Told (seen ++ [event]) after) :
    ∃ output, events.foldlM step start = .ok output ∧ output.events = start.events ∧
      Told events output := by
  suffices more : ∀ seen output, Told seen output → ∃ last, events.foldlM step output = .ok last ∧
      last.events = output.events ∧ Told (seen ++ events) last from more [] start begins
  clear begins
  induction events with
  | nil =>
      intro seen output told
      exact ⟨output, rfl, rfl, by simpa using told⟩
  | cons event events ih =>
      intro seen output told
      obtain ⟨own, others⟩ := List.forall_mem_cons.mp each
      obtain ⟨after, stepped, same, next⟩ := own seen output told
      obtain ⟨last, went, kept, ended⟩ := ih others (seen ++ [event]) after next
      refine ⟨last, ?_, kept.trans same, by simpa using ended⟩
      rw [List.foldlM_cons, stepped]
      exact went

/-- The events of a provider's stream give an output that says what they say. -/
theorem ofEvents_of_readable {provider : Provider} {events : List Json}
    (readable : ∀ event ∈ events, HasReadableCounts provider event) :
    ∃ output, ofEvents provider events = .ok output ∧ output.events = events ∧
      Reports provider events output := by
  let start : AgentOutput := { events }
  cases provider with
  | gemini =>
      have begins : GeminiReport [] start := ⟨rfl, rfl, rfl, rfl⟩
      exact foldlM_reports GeminiReport begins fun event member _ _ report =>
        stepGemini_reports report (readable event member)
  | codex =>
      have begins : CodexReport [] (start.withMessages []) :=
        ⟨rfl, rfl, rfl, [], rfl, rfl⟩
      obtain ⟨output, folded, same, report⟩ :=
        foldlM_reports (fun seen output => CodexReport seen (output.withMessages seen)) begins
          fun event member _ _ report => stepCodex_reports report (readable event member)
      refine ⟨output.withMessages events, ?_, same, report⟩
      simp [ofEvents, start, folded, codexMessages_eq, withMessages, bind, Except.bind]
  | claude =>
      have begins : ClaudeReport [] start := ⟨rfl, rfl, rfl, rfl⟩
      exact foldlM_reports ClaudeReport begins fun event member _ _ report =>
        stepClaude_reports report (readable event member)

theorem ofEvents_reports {provider : Provider} {events : List Json}
    (finite : ∀ event ∈ events, HasFiniteCounts provider event) :
    ∃ output, ofEvents provider events = .ok output ∧ output.events = events ∧
      Reports provider events output :=
  ofEvents_of_readable fun event member => (finite event member).readable

end AgentOutput

/-! ### Streams -/

/-- A line that an agent program writes: one object, with space around it or none. -/
structure EventLine where
  fields : List (String × Json)
  before : List Char
  body : List Char
  after : List Char
  isBefore : Json.IsGap before
  isAfter : Json.IsGap after
  writes : Json.Writes (.object fields) body
  single : '\n' ∉ before ++ (body ++ after)

namespace EventLine

/-- The object on the line. -/
def object (event : EventLine) : Json :=
  .object event.fields

/-- The characters of the line. -/
def line (event : EventLine) : List Char :=
  event.before ++ (event.body ++ event.after)

/-- The output of a program that writes some lines, each with a line feed at its end. -/
def stdout (stream : List EventLine) : String :=
  String.ofList (ended (stream.map line))

/-- The characters that may stand inside a JSON object although they end a line for a reader of
lines: as they are in a text, and a carriage return between tokens. -/
def innerBreaks : List Char :=
  ['\r', '\u0085', '\u2028', '\u2029']

/-- Whether none of them stands in a text. -/
def IsUnbroken (text : List Char) : Prop :=
  ∀ c ∈ text, c ∉ innerBreaks

instance (text : List Char) : Decidable (IsUnbroken text) :=
  List.decidableBAll _ text

/-- Whether a line is read as it is meant: no line break stands inside its object, and no number
in it is too large to be read. -/
structure IsPlain (provider : Provider) (event : EventLine) : Prop where
  unbroken : IsUnbroken event.body
  short : event.object.HasShortNumerals
  finite : AgentOutput.HasFiniteCounts provider event.object

/-- Without those characters an object stands on one line, however lines are told apart. -/
theorem isLine {event : EventLine} (unbroken : IsUnbroken event.body) :
    IsLine event.body := by
  intro c member
  have codes : ∀ mark ∈ '\n' :: innerBreaks, c.toNat ≠ mark.toNat := by
    intro mark among same
    obtain rfl := Char.toNat_inj.mp same
    rcases List.mem_cons.mp among with rfl | inner
    · exact event.single (List.mem_append_right _ (List.mem_append_left _ member))
    · exact unbroken c member inner
  have printable : 32 ≤ c.toNat ∨ c.toNat = 9 := by
    rcases event.writes.isPrintable c member with printable | space
    · exact .inl printable
    · have spaces : c = ' ' ∨ c = '\t' ∨ c = '\n' ∨ c = '\r' := by
        simpa [Json.isSpace, or_assoc] using space
      rcases spaces with rfl | rfl | rfl | rfl
      · exact .inl (Nat.le_refl 32)
      · exact .inr rfl
      · exact absurd rfl (codes '\n' (by simp))
      · exact absurd rfl (codes '\r' (by simp [innerBreaks]))
  simp only [innerBreaks, List.forall_mem_cons, Char.reduceToNat] at codes
  simp only [isLineBreak, Bool.or_eq_false_iff, Bool.and_eq_false_iff, decide_eq_false_iff_not,
    beq_eq_false_iff_ne]
  omega

/-- A stream of plain lines is read as its objects, in order. -/
theorem eventsOf_stdout {provider : Provider} {stream : List EventLine}
    (plain : ∀ event ∈ stream, event.IsPlain provider) :
    AgentOutput.eventsOf (stdout stream).toList = .ok (stream.map object) := by
  rw [stdout, String.toList_ofList]
  induction stream with
  | nil => rfl
  | cons event stream ih =>
      obtain ⟨own, others⟩ := List.forall_mem_cons.mp plain
      rw [List.map_cons, ended_cons]
      exact AgentOutput.eventsOf_object event.isBefore event.isAfter event.writes
        (isLine own.unbroken) own.short (ih others)

/-- **No event is lost.**  A stream of objects, each on a line of its own, is read as exactly these
objects in order, and text, session, model and counts of the output are what they say by the rules
of the provider: for gemini the messages put together, for codex the messages with an empty line
between them and the sums of the counts, for claude the last result. -/
theorem stream_is_read_whole {provider : Provider} {stream : List EventLine}
    (plain : ∀ event ∈ stream, event.IsPlain provider) :
    ∃ output, AgentOutput.read provider (stdout stream) = .ok output ∧
      output.events = stream.map object ∧
      AgentOutput.Reports provider (stream.map object) output := by
  have finite : ∀ event ∈ stream.map object, AgentOutput.HasFiniteCounts provider event := by
    intro event member
    obtain ⟨line, among, rfl⟩ := List.mem_map.mp member
    exact (plain line among).finite
  obtain ⟨output, read, same, reports⟩ := AgentOutput.ofEvents_reports finite
  refine ⟨output, ?_, same, reports⟩
  rw [AgentOutput.read, eventsOf_stdout plain]
  cases stream with
  | nil => cases provider <;> exact read
  | cons event stream => exact read

end EventLine

namespace SmallStream

open Json

/-- A field with its name in quotes. -/
def named (name : String) (value : List Char) : List Char :=
  '"' :: (name.toList ++ '"' :: ([] ++ ':' :: ([] ++ value)))

/-- An object of two fields. -/
def braced (first second : List Char) : List Char :=
  '\x7b' :: ([] ++ (first ++ ([] ++ ',' :: ([' '] ++ (second ++ ([] ++ ['\x7d']))))))

theorem writes_braced {name other : String} {value item : Json} {first second : List Char}
    (plain : IsUnescaped (name.toList ++ other.toList))
    (differs : name ≠ other) (one : Writes value first) (two : Writes item second) :
    Writes (.object [(name, value), (other, item)])
      (braced (named name first) (named other second)) := by
  obtain ⟨own, others⟩ := List.forall_mem_append.mp plain
  have space : IsGap [' '] := by
    intro c member
    rw [List.mem_singleton.mp member]
    rfl
  have firstField := WritesField.field (spells_plain own) isGap_nil isGap_nil one
  have secondField := WritesField.field (spells_plain others) isGap_nil isGap_nil two
  exact .object isGap_nil (.more firstField isGap_nil space (.last secondField isGap_nil))
    (by simpa using differs)

/-- A message of the agent, its text written in some way. -/
def message (content : String) (written : List Char) (spells : Spells content.toList written)
    (single : '\n' ∉ written) : EventLine where
  fields := [("type", .string "message"), ("content", .string content)]
  before := []
  body := braced (named "type" ('"' :: ("message".toList ++ ['"'])))
    (named "content" ('"' :: (written ++ ['"'])))
  after := []
  isBefore := isGap_nil
  isAfter := isGap_nil
  writes := writes_braced (by decide) (by decide) (.string (spells_plain (by decide)))
    (.string spells)
  single := by simp [braced, named, single]

theorem message_short {content : String} {written : List Char}
    (spells : Spells content.toList written) (single : '\n' ∉ written) :
    (message content written spells single).object.HasShortNumerals := by
  refine .object fun field member => ?_
  simp only [message, List.mem_cons, List.not_mem_nil, or_false] at member
  rcases member with rfl | rfl <;> exact .string _

/-- A result with its counts, on a line that ends with a carriage return. -/
def result : EventLine where
  fields := [("type", .string "result"),
    ("stats", .object [("input_tokens", .int 12), ("output_tokens", .int 3)])]
  before := []
  body := braced (named "type" ('"' :: ("result".toList ++ ['"'])))
    (named "stats" (braced (named "input_tokens" ['1', '2']) (named "output_tokens" ['3'])))
  after := ['\r']
  isBefore := isGap_nil
  isAfter := by
    intro c member
    rw [List.mem_singleton.mp member]
    rfl
  writes :=
    have twelve : Whole ['1', '2'] := .digits (by decide) (by simp [AreDigits])
    have three : Whole ['3'] := .digits (by decide) (by simp [AreDigits])
    have input : Writes (.int 12) ['1', '2'] := .number (@Numeral.whole false _ twelve)
    have output : Writes (.int 3) ['3'] := .number (@Numeral.whole false _ three)
    writes_braced (by decide) (by decide) (.string (spells_plain (by decide)))
      (writes_braced (by decide) (by decide) input output)
  single := by decide

theorem result_short : result.object.HasShortNumerals := by
  have small : ∀ n : Int, n.natAbs < Number.tenTo 2 → n.natAbs < Number.tenTo Number.numeralLimit :=
    fun n below => Nat.lt_of_lt_of_le below (Number.tenTo_mono (by decide))
  refine .object fun field member => ?_
  simp only [result, List.mem_cons, List.not_mem_nil, or_false] at member
  rcases member with rfl | rfl
  · exact .string _
  · refine .object fun count among => ?_
    simp only [List.mem_cons, List.not_mem_nil, or_false] at among
    rcases among with rfl | rfl
    · exact .int (small 12 (by decide))
    · exact .int (small 3 (by decide))

/-- A line separator may be written by its code point. -/
theorem spells_separator : Spells "one\u2028two".toList "one\\u2028two".toList := by
  have separator : CodeUnit '\u2028'.toNat ['2', '0', '2', '8'] :=
    @CodeUnit.digits '2' '0' '2' '8' 2 0 2 8 rfl rfl rfl rfl
  have before : Spells ['o', 'n', 'e'] ['o', 'n', 'e'] := spells_plain (by decide)
  have after : Spells ['t', 'w', 'o'] ['t', 'w', 'o'] := spells_plain (by decide)
  exact before.append (.unit separator after)

/-- Two messages, the line separator in the first one escaped, and a result. -/
def escapedStream : List EventLine :=
  [message "one\u2028two" "one\\u2028two".toList spells_separator (by decide),
    message " three" " three".toList (spells_plain (by decide)) (by decide), result]

theorem escapedStream_isPlain : ∀ event ∈ escapedStream, event.IsPlain .gemini := by
  simp only [escapedStream, List.forall_mem_cons]
  refine ⟨⟨by decide, message_short _ _, by decide⟩, ⟨by decide, message_short _ _, by decide⟩,
    ⟨by decide, result_short, by decide⟩, ?_⟩
  intro event member
  cases member

/-- An escaped line separator is part of its message. -/
theorem escaped_separator_is_read :
    ∃ output, AgentOutput.read .gemini (EventLine.stdout escapedStream) = .ok output ∧
      output.events = escapedStream.map EventLine.object ∧
      output.text = "one\u2028two three" ∧ output.inputTokens = 12 ∧ output.outputTokens = 3 := by
  obtain ⟨output, read, same, report⟩ := EventLine.stream_is_read_whole escapedStream_isPlain
  obtain ⟨text, -, -, counts⟩ := report
  have reported : AgentOutput.lastCounts "stats"
      (AgentOutput.ofKind "result" (escapedStream.map EventLine.object)) = .ok (12, 3) := by rfl
  obtain ⟨input, out⟩ := Prod.mk.inj (Except.ok.inj (counts.symm.trans reported))
  refine ⟨output, read, same, text.trans ?_, input, out⟩
  rfl

/-- A message of two lines, the line separator between them as it is. -/
def separated : EventLine :=
  message "one\u2028two" "one\u2028two".toList (spells_plain (by decide)) (by decide)

/-- A message of one line. -/
def single : EventLine :=
  message " three" " three".toList (spells_plain (by decide)) (by decide)

/-- A line separator that stands in a text cuts its line in two, and the event is lost. -/
theorem separator_hides_event :
    AgentOutput.read .gemini (EventLine.stdout [separated, single]) =
        .ok { text := " three", events := [single.object] } ∧
      ¬∃ output, AgentOutput.read .gemini (EventLine.stdout [separated, single]) = .ok output ∧
        output.events = [separated.object, single.object] := by
  have plain : ∀ event ∈ [single], event.IsPlain .gemini := by
    intro event member
    rw [List.mem_singleton.mp member]
    exact ⟨by decide, message_short _ _, by decide⟩
  have cut : (EventLine.stdout [separated, single]).toList =
      "\x7b\"type\":\"message\", \"content\":\"one".toList ++ '\u2028' ::
        ("two\"\x7d".toList ++ '\n' :: (EventLine.stdout [single]).toList) := by
    rw [EventLine.stdout, EventLine.stdout, String.toList_ofList, String.toList_ofList]
    rfl
  have events : AgentOutput.eventsOf (EventLine.stdout [separated, single]).toList =
      .ok [single.object] := by
    rw [cut, AgentOutput.eventsOf_of_none (by decide) (by cbv) (by decide) (by decide),
      AgentOutput.eventsOf_of_none (by decide) (by cbv) (by decide) (by decide),
      EventLine.eventsOf_stdout plain]
    rfl
  have read : AgentOutput.read .gemini (EventLine.stdout [separated, single]) =
      .ok { text := " three", events := [single.object] } := by
    rw [AgentOutput.read, events]
    rfl
  refine ⟨read, ?_⟩
  rintro ⟨output, found, same⟩
  obtain rfl := Except.ok.inj (read.symm.trans found)
  exact absurd (congrArg List.length same) (by simp)

end SmallStream

end PlanCycle
