/-
Module: PlanCycle.Proofs.IssueSection
Purpose: Where issues are looked for: in a body with a section called "Issues" nothing that stands
  before or behind that section adds an issue, hides one or changes one.
Main exports:
  Text.isLevelTwo, Text.titleOf, Text.heading?_of_isLevelTwo, Text.unheaded_of_not_isLevelTwo,
  Review.StandsBefore, Review.StandsBehind, issueScope_section, Review.only_the_section_counts
-/
import PlanCycle.Proofs.Lines
import PlanCycle.Review.Finding

namespace PlanCycle

open Text

namespace Text

/-! ### Texts as lines that end at line feeds -/

/-- No line feed is left in what a text is cut into at its line feeds. -/
theorem newline_not_mem_of_splitOn {text line : List Char} (cut : line ∈ text.splitOn '\n') :
    '\n' ∉ line := by
  induction text generalizing line with
  | nil =>
      rw [List.splitOn_nil, List.mem_singleton] at cut
      rw [cut]
      exact List.not_mem_nil
  | cons c text ih =>
      rw [List.splitOn_cons_eq_if_modifyHead] at cut
      split at cut
      · rcases List.mem_cons.mp cut with rfl | later
        · exact List.not_mem_nil
        · exact ih later
      · rename_i other
        obtain ⟨first, others, parts⟩ := List.exists_cons_of_ne_nil (List.splitOn_ne_nil '\n' text)
        rw [parts, List.modifyHead_cons] at cut
        rcases List.mem_cons.mp cut with rfl | later
        · refine List.not_mem_cons_of_ne_of_not_mem ?_ (ih (parts ▸ List.mem_cons_self))
          rintro rfl
          exact other rfl
        · exact ih (parts ▸ List.mem_cons_of_mem first later)

/-- A text with a line feed behind it is its lines, each with a line feed at its end. -/
theorem ended_splitOn (text : List Char) : ended (text.splitOn '\n') = text ++ ['\n'] := by
  induction text with
  | nil => rfl
  | cons c text ih =>
      obtain ⟨first, others, parts⟩ := List.exists_cons_of_ne_nil (List.splitOn_ne_nil '\n' text)
      rw [parts, ended_cons] at ih
      rw [List.splitOn_cons_eq_if_modifyHead, parts]
      split
      · rename_i same
        rw [beq_iff_eq.mp same, ended_cons, ended_cons, ih]
        rfl
      · rw [List.modifyHead_cons, ended_cons, List.cons_append, ih]
        rfl

/-! ### Headings of the second level -/

/-- Whether a line begins a section: two number signs stand there, alone or before a blank. -/
def isLevelTwo : List Char → Bool
  | ['#', '#'] => true
  | '#' :: '#' :: c :: _ => isBlank c
  | _ => false

/-- The title on a line that begins a section. -/
def titleOf (line : List Char) : List Char :=
  trim (line.drop 2)

/-- A line that begins no section is no heading. -/
theorem unheaded_of_not_isLevelTwo {line : List Char} (other : isLevelTwo line = false) :
    Unheaded (.exactly 2) line := by
  intro rest
  match line with
  | [] => exact unheaded_nil 1 rest
  | [c] => simp [heading?, dropNumberSigns?, List.replicate]
  | c :: d :: line =>
      by_cases signs : c = '#' ∧ d = '#'
      · obtain ⟨rfl, rfl⟩ := signs
        cases line with
        | nil => cases other
        | cons e line =>
            have visible : isBlank e = false := other
            simp [heading?, dropNumberSigns?, List.replicate, visible]
      · simp [heading?, dropNumberSigns?, List.replicate, signs]

/-- A line that begins a section is the heading with its title, if the title is not blank. -/
theorem heading?_of_isLevelTwo {line rest : List Char} (level : isLevelTwo line = true)
    (titled : titleOf line ≠ []) (unbroken : '\n' ∉ line)
    (ends : ∀ c, rest.head? = some c → c = '\n') :
    heading? (.exactly 2) (line ++ rest) = some (titleOf line, rest) := by
  unfold isLevelTwo at level
  split at level
  · exact absurd rfl titled
  · rename_i c line
    have blank : ∀ d ∈ [c], isBlank d = true := by simpa using level
    have title : titleOf ('#' :: '#' :: c :: line) = trim line := trim_append blank line
    have within : '\n' ∉ line := fun member => unbroken (by simp [member])
    rw [title] at titled ⊢
    have valued := lineRemainder?_ended (List.forall_mem_nil _) within titled ends
    simpa [heading?, dropNumberSigns?, List.replicate, level] using valued
  · cases level

end Text

namespace Review

/-- Whether a title is that of the section of issues. -/
def isIssuesTitle (title : List Char) : Bool :=
  lowerCase (trim title) == "issues".toList

/-- Whether a text may stand before the section of issues: it consists of whole lines, and the lines
of it that begin sections have titles, none of which is that of the issues. -/
structure StandsBefore (text : List Char) : Prop where
  whole : HasWholeLines text
  titled : ∀ line ∈ text.splitOn '\n', isLevelTwo line = true →
    titleOf line ≠ [] ∧ isIssuesTitle (titleOf line) = false

/-- Whether a text may stand behind the section of issues: it begins with a line that begins a
section and has a title, or is empty. -/
def StandsBehind (text : List Char) : Prop :=
  text = [] ∨ (isLevelTwo (upToNewline text).1 = true ∧ titleOf (upToNewline text).1 ≠ [])

/-- Lines before the section of issues do not hold it. -/
theorem find?_before {lines : List (List Char)} (unbroken : ∀ line ∈ lines, '\n' ∉ line)
    (titled : ∀ line ∈ lines, isLevelTwo line = true →
      titleOf line ≠ [] ∧ isIssuesTitle (titleOf line) = false) (rest : List Char) :
    (sections (.exactly 2) (ended lines ++ rest)).parts.find? (isIssuesTitle ·.1) =
      (sections (.exactly 2) rest).parts.find? (isIssuesTitle ·.1) := by
  unfold sections
  induction lines with
  | nil => rfl
  | cons line lines ih =>
      obtain ⟨here, others⟩ := List.forall_mem_cons.mp unbroken
      obtain ⟨named, later⟩ := List.forall_mem_cons.mp titled
      have same := ih others later
      rw [ended_cons, List.append_assoc, List.cons_append]
      cases level : isLevelTwo line with
      | false =>
          rw [sectionsFrom_plain _ here (unheaded_of_not_isLevelTwo level _)]
          exact same
      | true =>
          obtain ⟨visible, other⟩ := named level
          have found : heading? (.exactly 2) (line ++ '\n' :: (ended lines ++ rest)) =
              some (titleOf line, '\n' :: (ended lines ++ rest)) :=
            heading?_of_isLevelTwo level visible here fun c first => (Option.some.inj first).symm
          rw [sectionsFrom_of_heading found, sectionsFrom_within,
            List.find?_cons_of_neg (by simpa using other)]
          exact same

/-- A text before the section of issues is made of lines of its own. -/
theorem StandsBefore.lines {text : List Char} (before : StandsBefore text) :
    ∃ lines, text = Text.ended lines ∧ ∀ line ∈ lines, line ∈ text.splitOn '\n' := by
  rcases before.whole with rfl | last
  · exact ⟨[], rfl, List.forall_mem_nil _⟩
  · obtain ⟨front, rfl⟩ := List.getLast?_eq_some_iff.mp last
    refine ⟨front.splitOn '\n', (ended_splitOn front).symm, fun line cut => ?_⟩
    rw [List.splitOn_append_cons_self]
    exact List.mem_append_left _ cut

/-- A text behind the section of issues begins with a heading, if with anything. -/
theorem StandsBehind.lead {text : List Char} (behind : StandsBehind text) :
    (sections (.exactly 2) text).lead = [] := by
  unfold sections
  rcases behind with rfl | ⟨level, titled⟩
  · rw [sectionsFrom_nil (by decide)]
  · have unbroken : '\n' ∉ (upToNewline text).1 := fun member => by
      have kept := List.all_eq_true.mp List.all_takeWhile _ member
      simp at kept
    have whole : (upToNewline text).1 ++ (upToNewline text).2 = text :=
      List.takeWhile_append_dropWhile
    have ends : ∀ c, (upToNewline text).2.head? = some c → c = '\n' := fun c first => by
      have stopped := List.head?_dropWhile_not (· != '\n') text
      unfold upToNewline at first
      rw [first] at stopped
      simpa using stopped
    have found := heading?_of_isLevelTwo level titled unbroken ends
    rw [whole] at found
    rw [sectionsFrom_of_heading found]

end Review

/-- The issues are looked for in their section, whatever stands around it. -/
theorem issueScope_section {before inside behind : List Char} (first : Review.StandsBefore before)
    (within : ∀ line ∈ inside.splitOn '\n', isLevelTwo line = false)
    (last : Review.StandsBehind behind) :
    issueScope (before ++ ("## Issues\n".toList ++ (inside ++ '\n' :: behind))) =
      '\n' :: (inside ++ ['\n']) := by
  obtain ⟨lines, whole, among⟩ := first.lines
  have skipped := Review.find?_before (fun line cut => newline_not_mem_of_splitOn (among line cut))
    (fun line cut => first.titled line (among line cut))
  have issues : IsValue "Issues".toList := ⟨by decide, by decide, by decide⟩
  have heading (rest : List Char) : "## Issues\n".toList ++ rest =
      headed 2 "Issues".toList ++ '\n' :: rest := by
    have line : "## Issues\n".toList = headed 2 "Issues".toList ++ ['\n'] := by decide
    rw [line, List.append_assoc]
    rfl
  have body : inside ++ '\n' :: behind = ended (inside.splitOn '\n') ++ behind := by
    rw [ended_splitOn, List.append_assoc]
    rfl
  have lead : (sectionsFrom (.exactly 2) true (inside ++ '\n' :: behind)).lead =
      inside ++ ['\n'] := by
    rw [body, sectionsFrom_ended (fun line cut => newline_not_mem_of_splitOn cut)
      (fun line cut => unheaded_of_not_isLevelTwo (within line cut)), ended_splitOn]
    dsimp only
    rw [show (sectionsFrom (.exactly 2) true behind).lead = [] from last.lead, List.append_nil]
  have chosen : Review.isIssuesTitle "Issues".toList = true := by decide
  have found : (sections (.exactly 2)
      (before ++ ("## Issues\n".toList ++ (inside ++ '\n' :: behind)))).parts.find?
        (Review.isIssuesTitle ·.1) = some ("Issues".toList, '\n' :: (inside ++ ['\n'])) := by
    rw [whole, skipped, heading]
    unfold sections
    rw [sectionsFrom_headed issues, List.find?_cons_of_pos (by exact chosen), lead]
  unfold issueScope
  exact congrArg (fun part => Option.elim part _ (·.2)) found

/-- **Only the section of issues counts.**  What stands before and behind it neither adds an issue
nor hides or changes one: with other texts in its place the same issues are found and the same ones
are dropped.  Lists and headed blocks may stand there, and behind it a second section of issues. -/
theorem Review.only_the_section_counts {before before' inside behind behind' : List Char}
    (first : StandsBefore before ∧ StandsBefore before')
    (within : ∀ line ∈ inside.splitOn '\n', isLevelTwo line = false)
    (last : StandsBehind behind ∧ StandsBehind behind') :
    let body := before ++ ("## Issues\n".toList ++ (inside ++ '\n' :: behind))
    let other := before' ++ ("## Issues\n".toList ++ (inside ++ '\n' :: behind'))
    issuesOf body = issuesOf other ∧ droppedOf body = droppedOf other := by
  have same : findings (before ++ ("## Issues\n".toList ++ (inside ++ '\n' :: behind))) =
      findings (before' ++ ("## Issues\n".toList ++ (inside ++ '\n' :: behind'))) := by
    unfold findings
    rw [issueScope_section first.1 within last.1, issueScope_section first.2 within last.2]
  exact ⟨congrArg (List.filterMap Finding.issue?) same,
    congrArg (List.filterMap Finding.dropped?) same⟩

/-- Around a section with one issue stand blocks and list items that would be issues, and a second
section of issues. -/
theorem Review.issues_around_the_section :
    let before := ("- [HIGH] first\n### Issue 1\n- **Severity**: high\n##\t NOTES \n- low: " ++
      "second\n##Issues\n### Issues\n").toList
    let inside := "### Issue\n#\n**Severity**: LOW\n".toList
    let behind := "## Issues\r\n### Issue 2\n- **Severity**: high\n".toList
    StandsBefore before ∧ (∀ line ∈ inside.splitOn '\n', isLevelTwo line = false) ∧
      StandsBehind behind ∧
      issuesOf (before ++ ("## Issues\n".toList ++ (inside ++ '\n' :: behind))) =
        [⟨.low, "Issue", none⟩] := by
  intro before inside behind
  -- Texts are read by their characters, which spares decoding them.
  have first : StandsBefore before := by
    unfold before
    rw [String.toList_append, String.toList_ofList, String.toList_ofList]
    exact ⟨.inr (by decide +kernel), by decide +kernel⟩
  have within : ∀ line ∈ inside.splitOn '\n', isLevelTwo line = false := by
    unfold inside
    rw [String.toList_ofList]
    decide +kernel
  have last : StandsBehind behind := by
    unfold behind
    rw [String.toList_ofList]
    exact .inr (by decide +kernel)
  have same := Review.only_the_section_counts ⟨first, ⟨.inl rfl, by decide +kernel⟩⟩ within
    ⟨last, .inl rfl⟩
  refine ⟨first, within, last, same.1.trans ?_⟩
  decide +kernel

end PlanCycle
