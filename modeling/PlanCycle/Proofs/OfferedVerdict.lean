/-
Module: PlanCycle.Proofs.OfferedVerdict
Purpose: Which verdict is read where several are offered: of a status that lists keywords the first
  one decides, and so the template in a prompt for a critique is read as an approval.
Main exports:
  Verdict.IsKeyword, Verdict.ofKeyword_first, Prompt.toList_critiquePrompt, Prompt.template,
  Review.first_keyword_decides, Review.unfilled_template_approves
-/
import Mathlib.Data.Bool.AllAny
import Mathlib.Data.List.Find
import PlanCycle.Cycle.Prompt
import PlanCycle.Proofs.LastMarker

namespace PlanCycle

open Number Text Marker

/-! ### A keyword that something follows -/

namespace Text

/-- A text that something follows is trimmed at its start as before, and what was dropped from its
end is kept. -/
theorem trimOf_before {drop : Char → Bool} {c : Char} (kept : drop c = false) {text : List Char}
    (nonempty : trimOf drop text ≠ []) (more rest : List Char) :
    ∃ tail after, (∀ d ∈ tail, drop d = true) ∧
      trimOf drop (text ++ more ++ c :: rest) = trimOf drop text ++ (tail ++ more) ++ c :: after := by
  obtain ⟨tail, dropped, whole⟩ := exists_trimEndOf drop (trimStartOf drop text)
  have start : trimStartOf drop (text ++ more ++ c :: rest) =
      trimStartOf drop text ++ more ++ c :: rest := by
    have visible : (trimStartOf drop text).isEmpty = false := by
      refine List.isEmpty_eq_false_iff.mpr fun none => nonempty ?_
      unfold trimOf
      rw [none]
      rfl
    unfold trimStartOf at visible ⊢
    rw [List.append_assoc, List.dropWhile_append, visible]
    exact (List.append_assoc ..).symm
  refine ⟨tail, trimEndOf drop rest, dropped, ?_⟩
  calc trimOf drop (text ++ more ++ c :: rest)
      = trimStartOf drop text ++ more ++ c :: trimEndOf drop rest := by
        rw [trimOf, start, trimEndOf_append_kept kept]
    _ = trimOf drop text ++ (tail ++ more) ++ c :: trimEndOf drop rest := by
        rw [← List.append_assoc (trimOf drop text)]
        exact congrArg (· ++ more ++ c :: trimEndOf drop rest) whole

/-- The small letters as which a capital sigma may be read. -/
theorem exists_sigma {text : List Char} {c : Char} (member : c ∈ text) (sigma : c.toNat = 0x3A3)
    (before : List Char) :
    Char.ofNat 0x3C2 ∈ lowerAfter before text ∨ Char.ofNat 0x3C3 ∈ lowerAfter before text := by
  induction text generalizing before with
  | nil => cases member
  | cons d text ih =>
      rw [lowerAfter, List.mem_append, List.mem_append]
      rcases List.mem_cons.mp member with rfl | later
      · rw [if_pos sigma]
        split
        · exact .inl (.inl (.head _))
        · exact .inr (.inl (.head _))
      · exact (ih later (d :: before)).imp .inr .inr

end Text

namespace Keyword

/-- The code points of the blank characters. -/
def blankCodes : List Nat :=
  [9, 10, 11, 12, 13, 28, 29, 30, 31, 32, 0x85, 0xA0, 0x1680, 0x2000, 0x2001, 0x2002, 0x2003, 0x2004,
    0x2005, 0x2006, 0x2007, 0x2008, 0x2009, 0x200A, 0x2028, 0x2029, 0x202F, 0x205F, 0x3000]

theorem mem_blankCodes {c : Char} (blank : isBlank c = true) : c.toNat ∈ blankCodes := by
  unfold isBlank at blank
  simp only [Bool.or_eq_true, Bool.and_eq_true, decide_eq_true_eq, beq_iff_eq] at blank
  simp only [blankCodes, List.mem_cons, List.not_mem_nil, or_false]
  rcases blank with (((((((((h | h) | h) | h) | h) | h) | h) | h) | h) | h) | h <;> omega

/-- A blank has no lower case of its own. -/
theorem lowerCharacter_of_blank {c : Char} (blank : isBlank c = true) : lowerCharacter c = [c] := by
  have all : ∀ n ∈ blankCodes, lowerCharacter (Char.ofNat n) = [Char.ofNat n] := by decide +kernel
  have here := all c.toNat (mem_blankCodes blank)
  rwa [Char.ofNat_toNat] at here

/-- Whether a character may be dropped from an end of a keyword. -/
def IsMark (c : Char) : Prop :=
  isBlank c = true ∨ isWrapping c = true

/-- Whether a character is no letter of a keyword. -/
def IsForeign (c : Char) : Prop :=
  ∀ entry ∈ Verdict.keywords, c ∉ entry.1.toList

instance (c : Char) : Decidable (IsForeign c) :=
  List.decidableBAll _ _

/-- A mark is its own lower case, and it is dropped as a separator or no letter. -/
theorem IsMark.lower {c : Char} (mark : IsMark c) :
    c.toNat ≠ 0x3A3 ∧ lowerCharacter c = [c] ∧ (isSeparator c = true ∨ IsForeign c) := by
  rcases mark with blank | wrapping
  · have sigma : 0x3A3 ∉ blankCodes := by decide
    refine ⟨fun same => sigma (same ▸ mem_blankCodes blank), lowerCharacter_of_blank blank, .inl ?_⟩
    unfold isSeparator
    rw [blank]
    rfl
  · have all : ∀ c ∈ ['*', '`', '[', ']', '(', ')', '.', ':', '"', '\''],
        c.toNat ≠ 0x3A3 ∧ lowerCharacter c = [c] ∧ IsForeign c :=
      List.all_iff_forall_prop.mp (by decide)
    obtain ⟨other, lower, foreign⟩ := all c (of_decide_eq_true wrapping)
    exact ⟨other, lower, .inr foreign⟩

/-- The separators among marks before a bar are dropped, and what comes first then is no letter. -/
theorem filter_marks {marks : List Char} (dropped : ∀ c ∈ marks, IsMark c)
    (before rest : List Char) :
    ∃ c more, IsForeign c ∧
      (lowerAfter before (marks ++ '|' :: rest)).filter (!isSeparator ·) = c :: more := by
  induction marks generalizing before with
  | nil => exact ⟨'|', _, by decide, rfl⟩
  | cons d marks ih =>
      obtain ⟨here, others⟩ := List.forall_mem_cons.mp dropped
      obtain ⟨other, lower, kind⟩ := here.lower
      rw [List.cons_append, lowerAfter, if_neg other, lower, List.singleton_append]
      cases separator : isSeparator d with
      | true =>
          rw [List.filter_cons_of_neg (by simp [separator])]
          exact ih others (d :: before)
      | false =>
          rw [List.filter_cons_of_pos (by simp [separator])]
          exact ⟨d, _, kind.resolve_left (by simp [separator]), rfl⟩

/-- What follows a keyword and a bar leaves the keyword where it is, and goes on with no letter. -/
theorem condensed_before_bar {text : List Char} {entry : String × Verdict}
    (known : entry ∈ Verdict.keywords) (named : condensed text = entry.1.toList)
    (rest : List Char) :
    ∃ c more, IsForeign c ∧ condensed (text ++ '|' :: rest) = entry.1.toList ++ c :: more := by
  let core := trim (trimOf isWrapping (trim text))
  have nonempty : core ≠ [] := by
    intro none
    have filled : ∀ entry ∈ Verdict.keywords, entry.1.toList ≠ [] := by decide
    refine filled entry known (named.symm.trans ?_)
    exact congrArg (fun core => (lowerCase core).filter (!isSeparator ·)) none
  have unwrapped : trimOf isWrapping (trim text) ≠ [] := fun none => nonempty (congrArg trim none)
  have trimmed : trim text ≠ [] := fun none => unwrapped (congrArg (trimOf isWrapping) none)
  -- What was dropped behind the keyword now stands between it and the bar.
  obtain ⟨marks, after, dropped, whole⟩ : ∃ marks after, (∀ c ∈ marks, IsMark c) ∧
      trim (trimOf isWrapping (trim (text ++ '|' :: rest))) = core ++ (marks ++ '|' :: after) := by
    obtain ⟨one, later, blank, first⟩ :=
      trimOf_before (by decide : isBlank '|' = false) trimmed [] rest
    obtain ⟨two, last, wrapping, second⟩ :=
      trimOf_before (by decide : isWrapping '|' = false) unwrapped (one ++ []) later
    obtain ⟨three, after, spaced, third⟩ :=
      trimOf_before (by decide : isBlank '|' = false) nonempty (two ++ (one ++ [])) last
    refine ⟨three ++ (two ++ (one ++ [])), after, ?_, ?_⟩
    · rw [List.forall_mem_append, List.forall_mem_append, List.forall_mem_append]
      exact ⟨fun c member => .inl (spaced c member), fun c member => .inr (wrapping c member),
        fun c member => .inl (blank c member), List.forall_mem_nil _⟩
    · rw [List.append_nil] at first
      calc trim (trimOf isWrapping (trim (text ++ '|' :: rest)))
          = trim (trimOf isWrapping (trim text ++ (one ++ []) ++ '|' :: later)) :=
            congrArg (fun inner => trim (trimOf isWrapping inner)) first
        _ = trim (trimOf isWrapping (trim text) ++ (two ++ (one ++ [])) ++ '|' :: last) :=
            congrArg trim second
        _ = core ++ (three ++ (two ++ (one ++ []))) ++ '|' :: after := third
        _ = core ++ (three ++ (two ++ (one ++ [])) ++ '|' :: after) := List.append_assoc ..
  have plain : ∀ c ∈ core, c.toNat ≠ 0x3A3 := by
    intro c member sigma
    have absent : IsForeign (Char.ofNat 0x3C2) ∧ IsForeign (Char.ofNat 0x3C3) := by decide
    have kept {c : Char} (among : c ∈ lowerCase core) (letter : isSeparator c = false) :
        c ∈ entry.1.toList := by
      rw [← named]
      exact List.mem_filter.mpr ⟨among, by simp [letter]⟩
    rcases exists_sigma member sigma [] with final | inner
    · exact absent.1 entry known (kept final (by decide))
    · exact absent.2 entry known (kept inner (by decide))
  obtain ⟨c, more, foreign, behind⟩ := filter_marks dropped (core.reverse ++ []) after
  refine ⟨c, more, foreign, ?_⟩
  calc condensed (text ++ '|' :: rest)
      = (lowerCase (core ++ (marks ++ '|' :: after))).filter (!isSeparator ·) := by
        unfold condensed bare
        rw [whole]
    _ = (lowerCase core).filter (!isSeparator ·) ++ c :: more := by
        unfold lowerCase
        rw [lowerAfter_append plain, List.filter_append, behind]
    _ = entry.1.toList ++ c :: more := congrArg (· ++ c :: more) named

end Keyword

namespace Verdict

/-- Whether a text is a keyword for a verdict, however it is spelled. -/
def IsKeyword (verdict : Verdict) (text : List Char) : Prop :=
  ∃ entry ∈ keywords, Keyword.condensed text = entry.1.toList ∧ entry.2 = verdict

/-- A word that begins a longer text begins it before any other character. -/
theorem isPrefixOf_before {c : Char} {word : List Char} (foreign : c ∉ word)
    (text more : List Char) : word.isPrefixOf (text ++ c :: more) = word.isPrefixOf text := by
  induction word generalizing text with
  | nil => rfl
  | cons letter word ih =>
      have differs : letter ≠ c := fun same => foreign (same ▸ List.mem_cons_self)
      cases text with
      | nil => simp [List.isPrefixOf, differs]
      | cons d text =>
          simp only [List.cons_append, List.isPrefixOf]
          rw [ih fun member => foreign (List.mem_cons_of_mem letter member)]

/-- Of a keyword and what follows it behind a bar the keyword decides. -/
theorem ofKeyword_first {verdict : Verdict} {text : List Char} (keyword : verdict.IsKeyword text)
    (rest : List Char) : ofKeyword false (text ++ '|' :: rest) = verdict := by
  obtain ⟨entry, known, named, rfl⟩ := keyword
  obtain ⟨c, more, foreign, whole⟩ := Keyword.condensed_before_bar known named rest
  have found : ∀ entry ∈ keywords,
      keywords.find? (fun other => other.1.toList.isPrefixOf entry.1.toList) = some entry := by
    decide
  have same : keywords.find? (fun other =>
      other.1.toList.isPrefixOf (entry.1.toList ++ c :: more)) = some entry := by
    rw [← found entry known]
    exact List.find?_congr fun other member => isPrefixOf_before (foreign other member) _ more
  unfold ofKeyword
  simp only [whole, same, Bool.false_eq_true, if_false]
  rfl

end Verdict

/-- Of a status that lists keywords the first decides; if that is the one for no verdict, the body
does. -/
theorem Marker.verdict_of_first {marker : Marker} {verdict : Verdict} {first rest : List Char}
    (keyword : verdict.IsKeyword first) (stated : marker.status? = some (first ++ '|' :: rest)) :
    marker.verdict = if verdict = .unknown then Verdict.ofBody marker.body else verdict := by
  unfold Marker.verdict
  rw [stated, Option.map_some, Option.getD_some, Verdict.ofKeyword_first keyword]
  cases verdict with
  | unknown => exact (if_pos rfl).symm
  | approved => exact (if_neg nofun).symm
  | needsRevision => exact (if_neg nofun).symm
  | rejected => exact (if_neg nofun).symm

/-! ### The template in a prompt for a critique -/

namespace Prompt

/-- What the opening tag of the template holds after its name. -/
def templateAttributes (iteration : Int) (reviewer : String) : List Char :=
  "status=\"".toList ++ "approved|needs_revision|rejected".toList ++
    '"' :: (" iteration=\"".toList ++ (intText iteration).toList ++ "\" reviewer=\"".toList ++
      reviewer.toList ++ ['"'])

/-- The lines of the template behind its opening tag. -/
def templateLines : List String :=
  ["## Summary", "<overall assessment>", "", "## Issues", "### <short issue title>",
    "- **Severity**: High|Medium|Low", "- **Description**: <what is wrong>",
    "- **Location**: <file and section>", "", "## Verdict", "APPROVED|NEEDS_REVISION|REJECTED", "",
    "## Next Steps", "<recommendations>"]

/-- The text between the tags of the template. -/
def templateBody : List Char :=
  '\n' :: ended (templateLines.map String.toList)

/-- What is said of the verdicts behind the template. -/
def verdictNotes : List String :=
  ["", "- approved: complete, consistent and ready for implementation",
    "- needs_revision: concrete content problems; list every one under Issues",
    "- rejected: fundamental design problems that require starting over"]

/-- The text behind the template. -/
def templateNotes : List Char :=
  '\n' :: (joinLines verdictNotes).toList

/-- What announces the template. -/
def announcement : List Char :=
  "Finish your answer with exactly one review block:\n\n".toList

/-- The lines of a prompt for a critique before its change is named. -/
def idHeading : List (List Char) := ["## Change ID".toList]

/-- The lines between the change and its documents. -/
def documentsHeading : List (List Char) := ["", "## Documents", ""].map String.toList

/-- The lines between the documents and the template. -/
def taskLines : List (List Char) := ["", "## Task", "", challengeTask, ""].map String.toList

/-- What a prompt for a critique says before the template. -/
def critiqueLead (changeId documents : List Char) : List Char :=
  ended idHeading ++ (changeId ++ '\n' :: (ended documentsHeading ++
    (documents ++ '\n' :: (ended taskLines ++ announcement))))

/-- A character that is not among the letters of a text is not in the text.  A text that is given
literally is taken apart by this into its letters without being decoded. -/
theorem not_mem_spelled {c : Char} {letters : List Char} (absent : c ∉ letters) :
    c ∉ (String.ofList letters).toList := by
  rwa [String.toList_ofList]

theorem isApart_spelled {letters : List Char} (unclosed : untilClosing? letters = none)
    (begins : letters.head?.all fun c =>
      !isBlank c && c != '/' && c != '>' && !matchesLetter 'r' c) :
    IsApart (String.ofList letters).toList := by
  rw [String.toList_ofList]
  refine ⟨unclosed, ?_⟩
  rintro c more rfl
  simpa [and_assoc] using begins

theorem toList_templateLines :
    (joinLines (templateLines ++ "</review>" :: verdictNotes)).toList =
      ended (templateLines.map String.toList) ++ (closingTag ++ templateNotes) := by
  have whole := toList_joinLines_append (templateLines ++ "</review>" :: verdictNotes) (by simp)
  have notes := toList_joinLines_append verdictNotes (List.cons_ne_nil _ _)
  have last : "</review>".toList = closingTag := rfl
  rw [List.map_append, List.map_cons, last, ended_append, ended_cons, ← notes] at whole
  have grouped (body notes : List Char) : body ++ (closingTag ++ '\n' :: (notes ++ ['\n'])) =
      body ++ (closingTag ++ '\n' :: notes) ++ ['\n'] := by
    simp
  exact List.append_cancel_right (whole.trans (grouped _ _))

theorem toList_reviewFormat (iteration : Int) (reviewer : String) :
    (reviewFormat iteration reviewer).toList = announcement ++
      (tagged (templateAttributes iteration reviewer) templateBody ++ templateNotes) := by
  have opening : "<review status=\"approved|needs_revision|rejected\" iteration=\"".toList =
      openingStart ++ ("status=\"".toList ++ "approved|needs_revision|rejected".toList ++
        '"' :: " iteration=\"".toList) := by
    unfold openingStart
    repeat rw [String.toList_ofList]
    rfl
  have ending : "\">\n".toList = ['"', '>', '\n'] := String.toList_ofList
  have split : reviewFormat iteration reviewer =
      "Finish your answer with exactly one review block:\n\n" ++
        "<review status=\"approved|needs_revision|rejected\" iteration=\"" ++ intText iteration ++
        "\" reviewer=\"" ++ reviewer ++ "\">\n" ++
        joinLines (templateLines ++ "</review>" :: verdictNotes) := rfl
  have parts (one two three four five six seven : String) :
      (one ++ two ++ three ++ four ++ five ++ six ++ seven).toList = one.toList ++ (two.toList ++
        (three.toList ++ (four.toList ++ (five.toList ++ (six.toList ++ seven.toList))))) := by
    simp
  have grouped (start status number note name body last notes : List Char) :
      (start ++ (status ++ '"' :: number)) ++ (note ++ (name ++ (body ++
        (['"', '>', '\n'] ++ (last ++ (closingTag ++ notes)))))) =
      start ++ (status ++ '"' :: (number ++ note ++ name ++ body ++ ['"'])) ++ '>' :: '\n' :: last ++
        closingTag ++ notes := by
    simp
  rw [split, parts, opening, ending, toList_templateLines]
  exact congrArg (announcement ++ ·) (grouped _ _ _ _ _ _ _ _)

theorem toList_critiquePrompt {folder : ChangeFolder} {changeId reviewer prompt documents : String}
    {iteration : Int} (bundled : folder.bundle = .ok documents)
    (asked : folder.critiquePrompt changeId iteration reviewer = .ok prompt) :
    prompt.toList = critiqueLead changeId.toList documents.toList ++
      (tagged (templateAttributes iteration reviewer) templateBody ++
        (templateNotes ++ ['\n'])) := by
  have whole := toList_joinLines_append ["## Change ID", changeId, "", "## Documents", "", documents,
    "", "## Task", "", challengeTask, "", reviewFormat iteration reviewer, ""] (by simp)
  have split (one two three : List (List Char)) (id bundle start template notes : List Char) :
      ended (one ++ id :: (two ++ bundle :: (three ++ [start ++ (template ++ notes), []]))) =
        ended one ++ (id ++ '\n' :: (ended two ++ (bundle ++ '\n' :: (ended three ++ start)))) ++
          (template ++ (notes ++ ['\n'])) ++ ['\n'] := by
    simp
  have lines : (["## Change ID", changeId, "", "## Documents", "", documents, "", "## Task", "",
      challengeTask, "", reviewFormat iteration reviewer, ""].map String.toList) =
      idHeading ++ changeId.toList :: (documentsHeading ++ documents.toList :: (taskLines ++
        [(reviewFormat iteration reviewer).toList, []])) := rfl
  rw [lines, toList_reviewFormat, split] at whole
  unfold ChangeFolder.critiquePrompt at asked
  rw [bundled] at asked
  rw [← Except.ok.inj asked]
  exact List.append_cancel_right whole

/-- The template as a marker. -/
def template (iteration : Int) (reviewer : String) : Marker :=
  ⟨' ' :: templateAttributes iteration reviewer, templateBody⟩

theorem bounded_templateAttributes {reviewer : String} (bounded : '>' ∉ reviewer.toList)
    (iteration : Int) : '>' ∉ templateAttributes iteration reviewer := by
  have start : '>' ∉ "status=\"".toList ++ "approved|needs_revision|rejected".toList := by decide
  have round : '>' ∉ " iteration=\"".toList := by decide
  have name : '>' ∉ "\" reviewer=\"".toList := by decide
  have number : '>' ∉ (intText iteration).toList := by
    unfold intText
    split
    · rw [String.toList_append, List.mem_append, not_or]
      exact ⟨by decide, not_mem_toString (by decide) _⟩
    · exact not_mem_toString (by decide) _
  have rest := List.not_mem_append (List.not_mem_append (List.not_mem_append (List.not_mem_append
    round number) name) bounded) (by decide : '>' ∉ ['"'])
  exact List.not_mem_append start (List.not_mem_cons_of_ne_of_not_mem (by decide) rest)

/-- No closing tag begins in the template. -/
theorem unclosed_templateBody (rest : List Char) : Unclosed templateBody (closingTag ++ rest) := by
  have apart : ∀ line ∈ [] :: templateLines.map String.toList, IsApart line := by
    simp only [templateLines, List.map_cons, List.map_nil, List.forall_mem_cons, List.not_mem_nil,
      false_imp_iff, implies_true, and_true]
    refine ⟨isApart_nil, ?_⟩
    and_intros <;> exact isApart_spelled (by decide) (by decide)
  have afresh : BeginsAfresh (closingTag ++ rest) := by
    intro c more next
    have tag : closingTag ++ rest = '<' :: ("/review>".toList ++ rest) := rfl
    rw [tag, dropBlank_of_not_blank (by decide)] at next
    cases next
    decide
  exact unclosed_ended apart afresh

/-- The template is read as an approval. -/
theorem verdict_template (iteration : Int) (reviewer : String) :
    (template iteration reviewer).verdict = .approved := by
  have keyword : Verdict.approved.IsKeyword "approved".toList :=
    ⟨("approved", .approved), by decide, by decide, rfl⟩
  have stated : (template iteration reviewer).status? =
      some ("approved".toList ++ '|' :: "needs_revision|rejected".toList) :=
    status?_quoted (by decide) (by decide) _ templateBody
  exact (Marker.verdict_of_first keyword stated).trans (if_neg nofun)

/-- The issue that the template shows is none, as its severity is left open. -/
theorem issuesOf_templateBody : issuesOf templateBody = [] := by
  unfold templateBody templateLines
  simp only [List.map_cons, List.map_nil]
  -- the lines by their characters, which spares decoding them
  repeat rw [String.toList_ofList]
  decide +kernel

theorem pending?_nil : pending? [] = none := by
  rw [pending?]
  rfl

/-- What a prompt for a critique says before the template leaves no opening tag open if its
documents do not. -/
theorem pending?_critiqueLead {changeId documents : List Char} (named : pending? changeId = none)
    (settled : pending? documents = none) : pending? (critiqueLead changeId documents) = none := by
  have afresh {title : List Char} (heading : title.head? = some '#') (lines : List (List Char))
      (rest : List Char) : BeginsAfresh (ended ("".toList :: title :: lines) ++ rest) := by
    obtain ⟨title, rfl⟩ := List.head?_eq_some_iff.mp heading
    have empty : "".toList = [] := String.toList_ofList
    intro c more next
    rw [empty, ended_cons, ended_cons, List.nil_append, List.cons_append, List.cons_append,
      dropBlank_of_blank (by decide), List.cons_append, dropBlank_of_not_blank (by decide)] at next
    cases next
    decide
  have second (rest : List Char) : BeginsAfresh (ended documentsHeading ++ rest) :=
    afresh (congrArg List.head? (String.toList_ofList : "## Documents".toList = _)) ["".toList] rest
  have third (rest : List Char) : BeginsAfresh (ended taskLines ++ rest) :=
    afresh (congrArg List.head? (String.toList_ofList : "## Task".toList = _))
      ["".toList, challengeTask.toList, "".toList] rest
  have last : pending? (ended taskLines ++ announcement) = none := by
    have challenge : '<' ∉ challengeTask.toList := by
      refine not_mem_joinLines (by decide) (List.cons_ne_nil _ _) ?_
      simp only [List.forall_mem_cons, List.not_mem_nil, false_imp_iff, implies_true, and_true]
      and_intros <;> exact not_mem_spelled (by decide)
    have lines : ∀ line ∈ taskLines, '<' ∉ line := by
      simp only [taskLines, List.map_cons, List.map_nil, List.forall_mem_cons]
      exact ⟨by decide, by decide, by decide, challenge, by decide, List.forall_mem_nil _⟩
    have announced : '<' ∉ announcement := not_mem_spelled (by decide)
    have whole := pending?_append_of_untagged
      (List.not_mem_append (not_mem_ended (by decide) lines) announced) []
    rw [List.append_nil] at whole
    exact whole.trans pending?_nil
  unfold critiqueLead
  rw [pending?_append_of_untagged (by decide), pending?_append_newline named (second _),
    pending?_append_of_untagged (by decide), pending?_append_newline settled (third _), last]

end Prompt

/-! ### Reviews that leave the verdict open -/

open Prompt

/-- The last marker of a prompt for a critique is its template. -/
theorem Prompt.getLast?_critiquePrompt {folder : ChangeFolder}
    {changeId reviewer prompt documents : String} {iteration : Int}
    (bundled : folder.bundle = .ok documents)
    (asked : folder.critiquePrompt changeId iteration reviewer = .ok prompt)
    (named : pending? changeId.toList = none) (settled : pending? documents.toList = none)
    (bounded : '>' ∉ reviewer.toList) :
    (Marker.all prompt.toList).getLast? = some (template iteration reviewer) := by
  let rest := templateNotes ++ ['\n']
  let block := tagged (templateAttributes iteration reviewer) templateBody
  have found : complete? (block ++ rest) = some (template iteration reviewer, rest) :=
    complete?_tagged (bounded_templateAttributes bounded iteration) (unclosed_templateBody rest)
  obtain ⟨tail, begins⟩ : ∃ tail, block ++ rest = '<' :: tail := ⟨_, rfl⟩
  have notes : '<' ∉ (joinLines verdictNotes).toList := by
    refine not_mem_joinLines (by decide) (List.cons_ne_nil _ _) ?_
    simp only [verdictNotes, List.forall_mem_cons, List.not_mem_nil, false_imp_iff, implies_true,
      and_true]
    and_intros <;> exact not_mem_spelled (by decide)
  have untagged : '<' ∉ rest := List.not_mem_append
    (List.not_mem_cons_of_ne_of_not_mem (by decide) notes) (by decide : '<' ∉ ['\n'])
  rw [toList_critiquePrompt bundled asked, begins,
    all_append_of_settled (pending?_critiqueLead named settled), ← begins, all_of_complete found,
    all_of_unclosed (unclosed_of_untagged untagged []), List.getLast?_concat]

/-- **Where a verdict is left open the first one that is offered is read.**  A prompt for a critique,
given back as it is, is read as an approval without issues, unless its documents leave an opening
tag open.  A status that lists keywords is read as its first one; only where that one stands for no
verdict, the body decides.  So an answer that names no verdict beside its list is without a verdict
exactly if the list begins with the keyword for none. -/
theorem Review.first_keyword_decides (folder : ChangeFolder) (changeId reviewer : String)
    (iteration : Int) (text : String) :
    (∀ documents prompt : String, folder.bundle = .ok documents →
      folder.critiquePrompt changeId iteration reviewer = .ok prompt →
      pending? changeId.toList = none → pending? documents.toList = none →
      '>' ∉ reviewer.toList →
      (Review.parse prompt).verdict = .approved ∧ (Review.parse prompt).issues = []) ∧
    ∀ (marker : Marker) (verdict : Verdict) (first : List Char) (others : List (List Char)),
      (Marker.all text.toList).getLast? = some marker →
      marker.status? = some (['|'].intercalate (first :: others)) → others ≠ [] →
      verdict.IsKeyword first →
      (Review.parse text).verdict =
          (if verdict = .unknown then Verdict.ofBody marker.body else verdict) ∧
        (Verdict.ofBody marker.body = .unknown →
          ((Review.parse text).verdict = .unknown ↔ verdict = .unknown)) := by
  constructor
  · intro documents prompt bundled asked named settled bounded
    obtain ⟨verdict, issues⟩ :=
      Review.parse_of_last (Prompt.getLast?_critiquePrompt bundled asked named settled bounded)
    exact ⟨verdict.trans (verdict_template iteration reviewer),
      issues.trans issuesOf_templateBody⟩
  · intro marker verdict first others last stated several keyword
    obtain ⟨rest, listed⟩ : ∃ rest,
        ['|'].intercalate (first :: others) = first ++ '|' :: rest := by
      cases others with
      | nil => exact absurd rfl several
      | cons second others => exact ⟨['|'].intercalate (second :: others), rfl⟩
    have decides := (Review.parse_of_last last).1.trans
      (Marker.verdict_of_first keyword (stated.trans (congrArg some listed)))
    refine ⟨decides, fun silent => ?_⟩
    rw [decides, silent]
    split
    · rename_i same
      exact iff_of_true rfl same
    · exact Iff.rfl

/-- A prompt that is given back as it is and a status that offers two verdicts, of which the first is
no approval. -/
theorem Review.echoed_prompt_approves :
    let folder : ChangeFolder := ⟨default, [(["proposal.md"], .file (.text "# Search"))]⟩
    let documents := "### proposal.md\n\n# Search"
    let text := "<review status=\"needs_revision|approved\">\nOne of these.\n</review>"
    (folder.bundle = .ok documents ∧ pending? "search".toList = none ∧
      pending? documents.toList = none ∧ '>' ∉ "codex".toList ∧
      ∃ prompt, folder.critiquePrompt "search" 1 "codex" = .ok prompt ∧
        (Review.parse prompt).verdict = .approved ∧ (Review.parse prompt).issues = []) ∧
    Verdict.needsRevision.IsKeyword "needs_revision".toList ∧
      (Review.parse text).verdict = .needsRevision := by
  intro folder documents text
  have bundled : folder.bundle = .ok documents := by rfl
  have named : pending? "search".toList = none := by decide +kernel
  have settled : pending? documents.toList = none := by
    unfold documents
    rw [String.toList_ofList]
    decide +kernel
  have bounded : '>' ∉ "codex".toList := by decide
  have keyword : Verdict.needsRevision.IsKeyword "needs_revision".toList :=
    ⟨("needsrevision", .needsRevision), by decide, by decide, rfl⟩
  have last : (Marker.all text.toList).getLast? = some
      ⟨" status=\"needs_revision|approved\"".toList, "\nOne of these.\n".toList⟩ := by
    unfold text
    rw [String.toList_ofList, String.toList_ofList, String.toList_ofList]
    decide +kernel
  have stated : Marker.status?
      ⟨" status=\"needs_revision|approved\"".toList, "\nOne of these.\n".toList⟩ =
      some (['|'].intercalate ["needs_revision".toList, "approved".toList]) := by
    rw [String.toList_ofList, String.toList_ofList, String.toList_ofList, String.toList_ofList]
    decide +kernel
  obtain ⟨prompt, asked⟩ : ∃ prompt, folder.critiquePrompt "search" 1 "codex" = .ok prompt := by
    unfold ChangeFolder.critiquePrompt
    rw [bundled]
    exact ⟨_, rfl⟩
  exact ⟨⟨bundled, named, settled, bounded, prompt, asked,
      (Review.first_keyword_decides folder "search" "codex" 1 text).1 documents prompt bundled asked
        named settled bounded⟩,
    keyword, ((Review.first_keyword_decides folder "search" "codex" 1 text).2 _ .needsRevision _ _
      last stated (List.cons_ne_nil _ _) keyword).1⟩

/-- A template that was left unfilled is read as an approval, although nothing in its body names a
verdict. -/
theorem Review.unfilled_template_approves :
    let marker : Marker :=
      ⟨" status=\"approved|needs_revision|rejected\"".toList, "\nNo decision yet.\n".toList⟩
    let text := "<review status=\"approved|needs_revision|rejected\">\nNo decision yet.\n</review>"
    Marker.all text.toList = [marker] ∧ Verdict.ofKeyword false marker.body = .unknown ∧
      (∀ line ∈ splitLines marker.body, Verdict.ofKeyword false line = .unknown) ∧
      (Review.parse text).verdict = .approved := by
  dsimp only
  unfold Review.parse
  rw [String.toList_ofList, String.toList_ofList, String.toList_ofList]
  decide +kernel

end PlanCycle
