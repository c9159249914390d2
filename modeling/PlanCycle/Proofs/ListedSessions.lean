/-
Module: PlanCycle.Proofs.ListedSessions
Purpose: Which index is read from a printed list of conversations: that of the first one with the
  id, whatever the previews of the others quote.
Main exports:
  Text.MadeOf, Text.MadeOf.splitLines, lastBracketedId?_append, ListedSession,
  ListedSession.listEntry?_line, ListedSession.sessionIndex_of_list
-/
import Mathlib.Data.Bool.AllAny
import PlanCycle.Agent.Conversation
import PlanCycle.Proofs.Lines
import PlanCycle.Proofs.Numerals

namespace PlanCycle

open Number Text

namespace Text

/-- A text made of lines.  Any break that ends a line may end each of them, and the last one may
have no end. -/
inductive MadeOf : List (List Char) → List Char → Prop
  | none : MadeOf [] []
  | last (line : List Char) (filled : line ≠ []) : MadeOf [line] line
  | ended {line ending text : List Char} {lines : List (List Char)} (filled : line ≠ [])
      (ends : ending = ['\r', '\n'] ∨ ∃ c, isLineBreak c = true ∧ ending = [c])
      (others : MadeOf lines text) : MadeOf (line :: lines) (line ++ ending ++ text)

/-- A break that is no carriage return in front of a line feed ends one line. -/
theorem splitLines_break {c : Char} (ends : isLineBreak c = true) {text : List Char}
    (apart : text.head? ≠ some '\n') : splitLines (c :: text) = [] :: splitLines text := by
  rw [splitLines.eq_3 _ _ fun more _ same => apart (by rw [same]; rfl), if_pos ends]

/-- No line of a text that is made of lines begins with a line feed. -/
theorem MadeOf.head? {lines : List (List Char)} {text : List Char} (made : MadeOf lines text)
    (areLines : ∀ line ∈ lines, IsLine line) : text.head? ≠ some '\n' := by
  have begins : ∀ {line : List Char} (more : List Char), line ≠ [] → IsLine line →
      (line ++ more).head? ≠ some '\n' := by
    intro line more filled isLine first
    rw [List.head?_append_of_ne_nil _ filled] at first
    exact isLine.newline_not_mem (List.mem_of_mem_head? first)
  cases made with
  | none => nofun
  | last line filled =>
      have first := begins [] filled (areLines text List.mem_cons_self)
      rwa [List.append_nil] at first
  | ended filled ends others =>
      rw [List.append_assoc]
      exact begins _ filled (areLines _ List.mem_cons_self)

/-- A text is cut into the lines that it is made of. -/
theorem MadeOf.splitLines {lines : List (List Char)} {text : List Char} (made : MadeOf lines text)
    (areLines : ∀ line ∈ lines, IsLine line) : Text.splitLines text = lines := by
  induction made with
  | none => rfl
  | last line filled =>
      obtain ⟨isLine, -⟩ := List.forall_mem_cons.mp areLines
      have unbroken := isLine _ (List.getLast_mem filled)
      have cut : Text.splitLines [line.getLast filled] = [[line.getLast filled]] := by
        rw [splitLines.eq_3 _ _ fun _ _ impossible => by cases impossible]
        simp [unbroken, Text.splitLines]
      have front : IsLine line.dropLast :=
        fun c member => isLine c (List.dropLast_subset line member)
      rw [← List.dropLast_concat_getLast filled, splitLines_append front cut]
  | @ended line ending text lines filled ends others ih =>
      obtain ⟨isLine, areOthers⟩ := List.forall_mem_cons.mp areLines
      have cut : Text.splitLines (ending ++ text) = [] :: lines := by
        rw [← ih areOthers]
        rcases ends with rfl | ⟨c, ends, rfl⟩
        · rfl
        · exact splitLines_break ends (others.head? areOthers)
      rw [List.append_assoc, splitLines_append isLine cut, List.append_nil]

theorem occursIn_append (part rest : List Char) : occursIn part (part ++ rest) = true := by
  cases part with
  | nil => cases rest <;> simp [occursIn]
  | cons c part =>
      rw [List.cons_append, occursIn, Bool.or_eq_true]
      exact .inl (List.isPrefixOf_iff_prefix.mpr (List.prefix_append (c :: part) rest))

end Text

theorem isLine_digitsOf (n : Nat) : IsLine (digitsOf n) :=
  fun _ member => (visible_digit (isDigit_of_mem_digitsOf member)).1

/-! ### Ids in brackets -/

theorem isLineBreak_of_part {c : Char} (part : isSessionIdPart c = true) :
    isLineBreak c = false := by
  rcases Bool.or_eq_true_iff.mp part with letter | dash
  · have code := code_of_isAlphanum letter
    unfold isLineBreak
    simp
    omega
  · rw [beq_iff_eq.mp dash]
    decide

theorem lastBracketedId?_of_none {text : List Char} (none : '[' ∉ text) :
    lastBracketedId? text = .none := by
  induction text with
  | nil => rfl
  | cons c text ih =>
      obtain ⟨other, later⟩ := not_or.mp fun member => none (List.mem_cons.mpr member)
      have unopened : bracketedId? (c :: text) = .none := by
        unfold bracketedId?
        split
        · rename_i same
          exact absurd (List.cons.inj same).1.symm other
        · rfl
      rw [lastBracketedId?, ih later, unopened]

/-- An id in brackets at the end of a text is its last one. -/
theorem lastBracketedId?_append {id : List Char} (filled : id ≠ [])
    (parts : ∀ c ∈ id, isSessionIdPart c = true) (front : List Char) :
    lastBracketedId? (front ++ '[' :: (id ++ [']'])) = some id := by
  induction front with
  | nil =>
      have unopened : '[' ∉ id ++ [']'] := by
        intro member
        rcases List.mem_append.mp member with inside | behind
        · have part := parts '[' inside
          revert part
          decide
        · revert behind
          decide
      obtain ⟨c, more, rfl⟩ := List.exists_cons_of_ne_nil filled
      have own : (c :: more ++ [']']).takeWhile isSessionIdPart = c :: more ∧
          (c :: more ++ [']']).dropWhile isSessionIdPart = [']'] := by
        rw [List.takeWhile_append_of_pos parts, List.dropWhile_append_of_pos parts]
        exact ⟨List.append_nil _, rfl⟩
      rw [List.nil_append, lastBracketedId?, lastBracketedId?_of_none unopened]
      simp only [bracketedId?, own]
  | cons c front ih =>
      rw [List.cons_append, lastBracketedId?, ih]

/-- A conversation as it stands in a list of conversations. -/
structure ListedSession where
  number : Nat
  /-- What it begins with, as a quotation. -/
  preview : String
  /-- How long ago it was. -/
  age : String
  id : String
  short : (digitsOf number).length ≤ numeralLimit
  preview_line : IsLine preview.toList
  age_line : IsLine age.toList
  id_filled : id.toList ≠ []
  id_parts : ∀ c ∈ id.toList, isSessionIdPart c = true

namespace ListedSession

/-- The line above the conversations. -/
def header (count : Nat) : String :=
  "Available sessions for this project (" ++ toString count ++ "):"

/-- The line of a conversation. -/
def line (session : ListedSession) : String :=
  "  " ++ toString session.number ++ ". " ++ session.preview ++ " (" ++ session.age ++ ") [" ++
    session.id ++ "]"

section
variable (session : ListedSession)

theorem toList_line : session.line.toList =
    ' ' :: ' ' :: (digitsOf session.number ++ '.' :: ' ' ::
      (session.preview.toList ++ " (".toList ++ session.age.toList ++ ") ".toList ++
        '[' :: (session.id.toList ++ [']']))) := by
  unfold line digitsOf
  simp

theorem line_ne_nil : session.line.toList ≠ [] := by
  rw [toList_line]
  exact List.cons_ne_nil _ _

theorem isLine_line : IsLine session.line.toList := by
  have opening : IsLine " (".toList := by decide
  have closing : IsLine ") ".toList := by decide
  have point : IsLine ['.', ' '] := by decide
  have bracketed : IsLine ('[' :: (session.id.toList ++ [']'])) := by
    refine List.forall_mem_cons.mpr ⟨by decide, IsLine.append (fun c member => ?_) (by decide)⟩
    exact isLineBreak_of_part (session.id_parts c member)
  have text := (((session.preview_line.append opening).append session.age_line).append
    closing).append bracketed
  rw [toList_line]
  exact IsLine.append (show IsLine [' ', ' '] by decide)
    ((isLine_digitsOf session.number).append (point.append text))

/-- The line of a conversation is read as an entry with its number and its id. -/
theorem listEntry?_line :
    listEntry? session.line.toList = some (digitsOf session.number, session.id.toList) := by
  have decimal : ∀ c ∈ digitsOf session.number, isDecimal c = true :=
    fun c member => isDecimal_of_ascii (isDigit_of_mem_digitsOf member)
  obtain ⟨digit, digits, written⟩ := List.exists_cons_of_ne_nil (digitsOf_ne_nil session.number)
  have first : digit ∈ digitsOf session.number := written ▸ List.mem_cons_self
  have visible : isBlank digit = false := (visible_digit (isDigit_of_mem_digitsOf first)).2
  rw [toList_line]
  generalize session.preview.toList ++ " (".toList ++ session.age.toList ++ ") ".toList = front
  have start (rest : List Char) : dropBlank (' ' :: ' ' :: (digitsOf session.number ++ rest)) =
      digitsOf session.number ++ rest := by
    rw [dropBlank_of_blank (by decide), dropBlank_of_blank (by decide), written]
    exact dropBlank_of_not_blank visible _
  have number (rest : List Char) :
      (digitsOf session.number ++ '.' :: rest).takeWhile isDecimal = digit :: digits ∧
        (digitsOf session.number ++ '.' :: rest).dropWhile isDecimal = '.' :: rest := by
    rw [List.takeWhile_append_of_pos decimal, List.dropWhile_append_of_pos decimal, ← written]
    exact ⟨List.append_nil _, rfl⟩
  unfold listEntry?
  simp only [start, number]
  rw [if_pos (by decide), dropBlank_before (by decide),
    lastBracketedId?_append session.id_filled session.id_parts, written]
  rfl

end

theorem toList_header (count : Nat) : (header count).toList =
    "Available sessions".toList ++
      (" for this project (".toList ++ digitsOf count ++ "):".toList) := by
  unfold header digitsOf
  simp

theorem header_ne_nil (count : Nat) : (header count).toList ≠ [] := by
  rw [toList_header]
  exact List.append_ne_nil_of_left_ne_nil (by decide) _

theorem isLine_header (count : Nat) : IsLine (header count).toList := by
  have title : IsLine "Available sessions".toList := by decide
  have opening : IsLine " for this project (".toList := by decide
  have closing : IsLine "):".toList := by decide
  rw [toList_header]
  exact title.append ((opening.append (isLine_digitsOf count)).append closing)

theorem listEntry?_header (count : Nat) : listEntry? (header count).toList = none := by
  rw [toList_header]
  rfl

theorem hasListHeader_of_header (count : Nat) (rest : List Char) :
    hasListHeader ((header count).toList ++ rest) = true := by
  have plain : ∀ c ∈ "Available sessions".toList, c.toNat ≠ 0x3A3 :=
    List.all_iff_forall_prop.mp (by decide)
  have lowered : lowerAfter [] "Available sessions".toList = "available sessions".toList := by
    decide
  unfold hasListHeader lowerCase
  rw [toList_header, List.append_assoc, lowerAfter_append plain, lowered]
  exact occursIn_append _ _

/-- The number that a list of conversations has for an id is that of the first conversation with
that id, whatever the previews of conversations quote.  There is none if no conversation has the
id, and if there is no conversation, that is what is reported. -/
theorem sessionIndex_of_list {listing id : String} {count : Nat} {sessions : List ListedSession}
    (made : MadeOf ((header count).toList :: sessions.map fun session => session.line.toList)
      listing.toList) :
    (∀ before session after, sessions = before ++ session :: after → session.id = id →
      (∀ other ∈ before, other.id ≠ id) → sessionIndex listing id = .ok (session.number : Int)) ∧
    (sessions ≠ [] → (∀ session ∈ sessions, session.id ≠ id) →
      sessionIndex listing id = .error (.notListed id)) ∧
    (sessions = [] → sessionIndex listing id = .error .noEntries) := by
  have areLines : ∀ line ∈ (header count).toList :: sessions.map fun session => session.line.toList,
      IsLine line := by
    refine List.forall_mem_cons.mpr ⟨isLine_header count, fun line member => ?_⟩
    obtain ⟨session, -, rfl⟩ := List.mem_map.mp member
    exact session.isLine_line
  have cut := made.splitLines areLines
  have headed : hasListHeader listing.toList = true := by
    obtain ⟨rest, whole⟩ := splitLines_first cut
    rw [← whole]
    exact hasListHeader_of_header count rest
  have entries : (splitLines listing.toList).filterMap listEntry? =
      sessions.map fun session => (digitsOf session.number, session.id.toList) := by
    have read : listEntry? ∘ (fun session : ListedSession => session.line.toList) =
        fun session => some (digitsOf session.number, session.id.toList) := by
      funext session
      rw [Function.comp_apply, listEntry?_line]
    rw [cut, List.filterMap_cons, listEntry?_header]
    dsimp only
    rw [List.filterMap_map, read, List.filterMap_eq_map']
  have looked : (sessions.map fun session => (digitsOf session.number, session.id.toList)).find?
      (·.2 == id.toList) = (sessions.find? (·.id == id)).map
        fun session => (digitsOf session.number, session.id.toList) := by
    rw [List.find?_map]
    congr 2
    funext session
    rw [Function.comp_apply, Bool.eq_iff_iff, beq_iff_eq, beq_iff_eq, String.toList_inj]
  unfold sessionIndex
  rw [if_pos headed]
  dsimp only
  rw [entries, looked]
  refine ⟨?_, ?_, ?_⟩
  · rintro before session after rfl rfl others
    have passed : before.find? (·.id == session.id) = none := by
      simpa [List.find?_eq_none] using others
    simp [List.find?_append, passed, readInt?_digitsOf session.short]
  · intro filled unlisted
    have missing : sessions.find? (·.id == id) = none := by
      simpa [List.find?_eq_none] using unlisted
    simp [missing, filled]
  · rintro rfl
    rfl

end ListedSession

/-! ### A list in which conversations quote each other -/

namespace QuotingSessions

/-- It quotes the header, and the next conversation by number and id. -/
def first : ListedSession where
  number := 1
  preview := "Available sessions: 2. [9c41-b]"
  age := "2 hours ago"
  id := "3f2b-a"
  short := by decide
  preview_line := by decide
  age_line := by decide
  id_filled := by decide
  id_parts := List.all_iff_forall_prop.mp (by decide)

/-- It quotes the first conversation by its id. -/
def second : ListedSession where
  number := 12
  preview := "Go on with [3f2b-a]"
  age := "[now]"
  id := "9c41-b"
  short := by decide
  preview_line := by decide
  age_line := by decide
  id_filled := by decide
  id_parts := List.all_iff_forall_prop.mp (by decide)

/-- The list as it is printed, with breaks of two kinds. -/
def listing : String :=
  "Available sessions for this project (2):\r\n" ++
  "  1. Available sessions: 2. [9c41-b] (2 hours ago) [3f2b-a]\n" ++
  "  12. Go on with [3f2b-a] ([now]) [9c41-b]"

theorem listing_made : MadeOf ((ListedSession.header 2).toList ::
    [first, second].map fun session => session.line.toList) listing.toList := by
  have whole : listing = ListedSession.header 2 ++ "\r\n" ++ (first.line ++ "\n" ++ second.line) :=
    by decide +kernel
  simp only [whole, String.toList_append]
  exact .ended (ListedSession.header_ne_nil 2) (.inl rfl)
    (.ended first.line_ne_nil (.inr ⟨'\n', by decide, rfl⟩) (.last _ second.line_ne_nil))

/-- Each id is found in its own line, an id that is in none is not found, and a list without
conversations has no entries. -/
theorem quoted_ids_are_passed_over :
    sessionIndex listing "3f2b-a" = .ok 1 ∧ sessionIndex listing "9c41-b" = .ok 12 ∧
      sessionIndex listing "now" = .error (.notListed "now") ∧
      sessionIndex (ListedSession.header 0) "3f2b-a" = .error .noEntries := by
  have bare : MadeOf ((ListedSession.header 0).toList ::
      ([] : List ListedSession).map fun session => session.line.toList)
        (ListedSession.header 0).toList := .last _ (ListedSession.header_ne_nil 0)
  obtain ⟨one, -, -⟩ := ListedSession.sessionIndex_of_list listing_made
  obtain ⟨two, -, -⟩ := ListedSession.sessionIndex_of_list listing_made
  obtain ⟨-, unlisted, -⟩ := ListedSession.sessionIndex_of_list listing_made
  obtain ⟨-, -, empty⟩ := ListedSession.sessionIndex_of_list bare
  exact ⟨one [] first [second] rfl rfl nofun, two [first] second [] rfl rfl (by decide),
    unlisted (by decide) (by decide), empty rfl⟩

end QuotingSessions

end PlanCycle
