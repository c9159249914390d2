/-
Module: PlanCycle.Proofs.WrittenReview
Purpose: A review that is written down is read back: from a text of written reviews the verdict and
  the issues of the last one.
Main exports:
  Review.attributes, Review.toList_render, Review.unclosed_body, Marker.verdict_written,
  WrittenReview, Review.parse_written
-/
import PlanCycle.Proofs.WrittenBody

namespace PlanCycle

open Text Marker

/-! ### A written review as a marker -/

namespace Review

/-- What an opening tag says of the round. -/
def roundNote : Option Int → String
  | some n => " iteration=\"" ++ toString n ++ "\""
  | none => ""

/-- What an opening tag says of the reviewer. -/
def reviewerNote : Option String → String
  | some name => if name.isEmpty then "" else " reviewer=\"" ++ name ++ "\""
  | none => ""

/-- What the opening tag of a written review holds after its name. -/
def attributes (verdict : Verdict) (iteration : Option Int) (reviewer : Option String) :
    List Char :=
  "status=\"".toList ++ verdict.word.toList ++
    '"' :: ((roundNote iteration).toList ++ (reviewerNote reviewer).toList)

theorem toList_openingTag (verdict : Verdict) (iteration : Option Int)
    (reviewer : Option String) :
    (openingTag verdict iteration reviewer).toList =
      openingStart ++ attributes verdict iteration reviewer ++ ['>'] := by
  have parts (one two three four five six : String) :
      (one ++ two ++ three ++ four ++ five ++ six).toList = one.toList ++ two.toList ++
        three.toList ++ four.toList ++ five.toList ++ six.toList := by simp
  have grouped (start status word round name : List Char) :
      start ++ status ++ word ++ ['"'] ++ round ++ name ++ ['>'] =
        start ++ (status ++ word ++ '"' :: (round ++ name)) ++ ['>'] := by simp
  have start : "<review status=\"".toList = openingStart ++ "status=\"".toList := rfl
  calc (openingTag verdict iteration reviewer).toList
      = "<review status=\"".toList ++ verdict.word.toList ++ "\"".toList ++
          (roundNote iteration).toList ++ (reviewerNote reviewer).toList ++ ">".toList :=
        parts _ _ _ _ _ _
    _ = openingStart ++ "status=\"".toList ++ verdict.word.toList ++ ['"'] ++
          (roundNote iteration).toList ++ (reviewerNote reviewer).toList ++ ['>'] := by
        rw [start]
        rfl
    _ = openingStart ++ attributes verdict iteration reviewer ++ ['>'] := grouped _ _ _ _ _

/-- A written review is a marker. -/
theorem toList_render (review : Review) (iteration : Option Int) (reviewer : Option String) :
    (review.render iteration reviewer ++ "\n\n").toList =
      tagged (attributes review.verdict iteration reviewer) (ended review.bodyLines) ++
        ['\n', '\n'] := by
  have whole := toList_joinLines_append
    ([openingTag review.verdict iteration reviewer, "", "## Issues", ""] ++
      (if review.issues.isEmpty then ["(none)", ""] else Issue.linesFrom 1 review.issues) ++
      ["## Verdict", "", review.verdict.capitals, "", "</review>"]) (by simp)
  have issues : (if review.issues.isEmpty then ["(none)", ""]
      else Issue.linesFrom 1 review.issues).map String.toList = review.issueLines := by
    unfold issueLines
    split
    · rfl
    · rfl
  have text : (review.render iteration reviewer ++ "\n\n").toList =
      ((review.render iteration reviewer).toList ++ ['\n']) ++ ['\n'] := by
    simp
  rw [text, render, whole, List.map_append, List.map_append, issues]
  have last : "</review>".toList = closingTag := rfl
  have upper : "## Issues".toList = headed 2 "Issues".toList := rfl
  have lower : "## Verdict".toList = headed 2 "Verdict".toList := rfl
  simp only [List.map_cons, List.map_nil, toList_openingTag, bodyLines, tagged, last, upper, lower,
    String.toList_empty]
  generalize headed 2 "Issues".toList = upper
  generalize headed 2 "Verdict".toList = lower
  simp

end Review

/-! ### No closing tag in a body -/

theorem isApart_fieldLine {field : List Char × List Char} (fits : FitsField field) :
    IsApart (fieldLine field.1 field.2) := by
  have named : ∀ name ∈ fieldTitles, '<' ∉ "- **".toList ++ name ++ "**: ".toList := by decide
  have start := unclosed_of_untagged (named field.1 fits.named) field.2
  constructor
  · unfold fieldLine
    rw [untilClosing?_append start, fits.unclosed]
    rfl
  · intro c more same
    cases same
    decide

theorem isApart_nil : IsApart [] := ⟨rfl, nofun⟩

theorem isApart_of_untagged {c : Char} {line : List Char} (untagged : '<' ∉ c :: line)
    (begins : isBlank c = false ∧ c ≠ '/' ∧ c ≠ '>' ∧ matchesLetter 'r' c = false) :
    IsApart (c :: line) := by
  refine ⟨(unclosed_iff _).1 (unclosed_of_untagged untagged []), ?_⟩
  intro d more same
  cases same
  exact begins

theorem untagged_title (number : Nat) : '<' ∉ Issue.title number := by
  intro member
  rcases List.mem_append.mp member with first | last
  · revert first
    decide
  · exact not_mem_toString (by decide) number last

namespace Review

theorem isApart_headed {title : List Char} (untagged : '<' ∉ title) (signs : Nat) :
    IsApart (headed (signs + 1) title) := by
  have whole : '<' ∉ headed (signs + 1) title := by
    simp [headed, untagged]
  rw [headed, List.replicate_succ] at whole ⊢
  exact isApart_of_untagged whole (by decide)

section
variable {review : Review} (fits : ∀ issue ∈ review.issues, issue.Fits)
include fits

theorem isApart_issueLines : ∀ line ∈ review.issueLines, IsApart line :=
  forall_issueLines (fun number => isApart_headed (untagged_title number) 2)
    (fun issue among field known => isApart_fieldLine ((fits issue among).fields field known))
    isApart_nil (isApart_of_untagged (by decide) (by decide))

/-- No closing tag begins in the body of a written review. -/
theorem unclosed_body (after : List Char) : Unclosed (ended review.bodyLines) after := by
  let front := [[], [], headed 2 "Issues".toList, []] ++ review.issueLines
  let back := [headed 2 "Verdict".toList, [], review.verdict.capitals.toList, []]
  have named : IsApart (headed 2 "Issues".toList) := isApart_headed (by decide) 1
  have start : ∀ line ∈ [[], [], headed 2 "Issues".toList, []], IsApart line := by
    rw [List.forall_mem_cons, List.forall_mem_cons, List.forall_mem_cons,
      List.forall_mem_singleton]
    exact ⟨isApart_nil, isApart_nil, named, isApart_nil⟩
  have apart : ∀ line ∈ front, IsApart line :=
    List.forall_mem_append.mpr ⟨start, isApart_issueLines fits⟩
  have untagged : '<' ∉ ended back := by
    cases verdict : review.verdict with
    | approved => simp only [back, verdict]; decide
    | needsRevision => simp only [back, verdict]; decide
    | rejected => simp only [back, verdict]; decide
    | unknown => simp only [back, verdict]; decide
  have afresh : BeginsAfresh (ended back ++ after) := by
    intro c more next
    have begins : ∃ text, ended back ++ after = '#' :: text := ⟨_, rfl⟩
    obtain ⟨text, begins⟩ := begins
    rw [begins, dropBlank_of_not_blank (by decide)] at next
    cases next
    decide
  have whole : ended review.bodyLines = ended front ++ ended back := by
    rw [← ended_append]
    rfl
  rw [whole]
  exact (unclosed_ended apart afresh).append (unclosed_of_untagged untagged after)

end

end Review

/-! ### The verdict of a written review -/

namespace Text

theorem mem_dropWhile {drop : Char → Bool} {c : Char} (kept : drop c = false) {text : List Char}
    (member : c ∈ text) : c ∈ text.dropWhile drop := by
  induction text with
  | nil => cases member
  | cons d text ih =>
      rw [List.dropWhile_cons]
      split
      · rename_i dropped
        rcases List.mem_cons.mp member with rfl | later
        · rw [kept] at dropped
          cases dropped
        · exact ih later
      · exact member

theorem mem_trimOf {drop : Char → Bool} {c : Char} (kept : drop c = false) {text : List Char}
    (member : c ∈ text) : c ∈ trimOf drop text := by
  unfold trimOf trimEndOf trimStartOf
  rw [List.mem_reverse]
  apply mem_dropWhile kept
  rw [List.mem_reverse]
  exact mem_dropWhile kept member

end Text

namespace Verdict

/-- A text with a number sign is no keyword. -/
theorem ofKeyword_of_sign {text : List Char} (signed : '#' ∈ text) :
    ofKeyword true text = .unknown := by
  have condensed : '#' ∈ Keyword.condensed text := by
    unfold Keyword.condensed Keyword.bare trim
    have own : '#'.toLower = '#' := by decide
    refine List.mem_filter.mpr ⟨own ▸ mem_lowerCase (by decide) ?_, by decide⟩
    exact mem_trimOf (by decide) (mem_trimOf (by decide) (mem_trimOf (by decide) signed))
  have unsigned : ∀ entry ∈ keywords, '#' ∉ entry.1.toList := by decide
  have unnamed : (keywords.find? fun entry => entry.1.toList == Keyword.condensed text) = none := by
    rw [List.find?_eq_none]
    intro entry member same
    rw [beq_iff_eq] at same
    exact unsigned entry member (same ▸ condensed)
  unfold ofKeyword
  simp only [if_true, unnamed]
  rfl

theorem ofKeyword_word (verdict : Verdict) : ofKeyword false verdict.word.toList = verdict := by
  cases verdict with
  | approved => decide
  | needsRevision => decide
  | rejected => decide
  | unknown => decide

/-- Lines without a label have no part in the verdict. -/
theorem ofLines_append {lines : List (List Char)}
    (unlabelled : ∀ line ∈ lines, verdictLineValue? line = none) (rest : List (List Char)) :
    ofLines (lines ++ rest) = ofLines rest := by
  induction lines with
  | nil => rfl
  | cons line lines ih =>
      obtain ⟨first, others⟩ := List.forall_mem_cons.mp unlabelled
      rw [List.cons_append, ofLines, first]
      exact ih others

section
variable {c : Char} (unstarred : c ≠ '*') (other : matchesLetter 'v' c = false)
include unstarred other

theorem verdictLineValue?_of_marks {line text : List Char}
    (marked : dropHeadingMarks (dropBlank line) = c :: text) : verdictLineValue? line = none := by
  have bare : (c :: text).dropWhile (· == '*') = c :: text := by
    simp [unstarred]
  have unnamed : dropWord? "verdict".toList (c :: text) = none := by
    change dropWord? ('v' :: "erdict".toList) (c :: text) = none
    rw [dropWord?, other]
    rfl
  unfold verdictLineValue?
  simp only [marked, bare, unnamed]
  rfl

theorem verdictLineValue?_cons (visible : isBlank c = false) (unsigned : c ≠ '#')
    (text : List Char) : verdictLineValue? (c :: text) = none := by
  have marked : dropHeadingMarks (dropBlank (c :: text)) = c :: text := by
    rw [dropBlank_of_not_blank visible]
    unfold dropHeadingMarks
    split
    · rename_i same
      exact absurd (List.cons.inj same).1 unsigned
    · rfl
  exact verdictLineValue?_of_marks unstarred other marked

theorem verdictLineValue?_headed (visible : isBlank c = false) (signs : Nat) (text : List Char) :
    verdictLineValue? (headed (signs + 1) (c :: text)) = none := by
  have signed : ∀ d ∈ List.replicate (signs + 1) '#', (d == '#') = true := by
    intro d member
    rw [(List.mem_replicate.mp member).2]
    rfl
  have bare : (headed (signs + 1) (c :: text)).dropWhile (· == '#') = ' ' :: c :: text := by
    unfold headed
    rw [List.dropWhile_append_of_pos signed]
    rfl
  have start : headed (signs + 1) (c :: text) =
      '#' :: (List.replicate signs '#' ++ ' ' :: c :: text) := rfl
  have first : dropBlank (headed (signs + 1) (c :: text)) = headed (signs + 1) (c :: text) := by
    rw [start, dropBlank_of_not_blank (by decide)]
  have marks : dropHeadingMarks (headed (signs + 1) (c :: text)) =
      dropBlank ((headed (signs + 1) (c :: text)).dropWhile (· == '#')) := rfl
  have marked : dropHeadingMarks (dropBlank (headed (signs + 1) (c :: text))) = c :: text := by
    rw [first, marks, bare, dropBlank_of_blank (by decide), dropBlank_of_not_blank visible]
  exact verdictLineValue?_of_marks unstarred other marked

end

/-- The body of a written review names no other verdict than its tag. -/
theorem ofBody_written {review : Review} (plain : ∀ issue ∈ review.issues, issue.IsPlain)
    (undecided : review.verdict = .unknown) : ofBody (ended review.bodyLines) = .unknown := by
  let front := [[], [], headed 2 "Issues".toList, []] ++ review.issueLines
  let back := [headed 2 "Verdict".toList, [], review.verdict.capitals.toList, []]
  have signed : '#' ∈ ended review.bodyLines := by
    have heading : '#' ∈ headed 2 "Issues".toList := List.mem_cons_self
    refine List.mem_flatMap.mpr ⟨headed 2 "Issues".toList, ?_, List.mem_append_left _ heading⟩
    simp [Review.bodyLines]
  have areLines : ∀ line ∈ front ++ back, IsLine line := by
    have start : ∀ line ∈ [[], [], headed 2 "Issues".toList, []], IsLine line := by decide
    have last : ∀ line ∈ back, IsLine line := by
      simp only [back, undecided]
      decide
    rw [List.forall_mem_append, List.forall_mem_append]
    exact ⟨⟨start, Review.isLine_issueLines plain⟩, last⟩
  have unlabelled : ∀ line ∈ front, verdictLineValue? line = none := by
    have start : ∀ line ∈ [[], [], headed 2 "Issues".toList, []],
        verdictLineValue? line = none := by decide
    have heading (number : Nat) : verdictLineValue? (headed 3 (Issue.title number)) = none :=
      verdictLineValue?_headed (c := 'I') (by decide) (by decide) (by decide) 2 _
    have value (field : List Char × List Char) :
        verdictLineValue? (fieldLine field.1 field.2) = none :=
      verdictLineValue?_cons (c := '-') (by decide) (by decide) (by decide) (by decide) _
    have empty : verdictLineValue? [] = none := by decide
    have silent : verdictLineValue? "(none)".toList = none := by decide
    exact List.forall_mem_append.mpr
      ⟨start, Review.forall_issueLines heading (fun _ _ field _ => value field) empty silent⟩
  have lines : splitLines (ended review.bodyLines) = front ++ back := splitLines_ended areLines
  have rest : ofLines back = .unknown := by
    simp only [back, undecided]
    decide
  unfold ofBody
  rw [ofKeyword_of_sign signed, lines]
  dsimp only
  rw [ofLines_append unlabelled, rest]

end Verdict

namespace Marker

theorem attributeValue?_quoted {value : List Char} (unquoted : '"' ∉ value) (rest : List Char) :
    attributeValue? ('"' :: (value ++ '"' :: rest)) = some value := by
  have before : ∀ c ∈ value, (c != '"') = true := by
    intro c member
    simp only [bne_iff_ne, ne_eq]
    rintro rfl
    exact unquoted member
  have taken : (value ++ '"' :: rest).takeWhile (· != '"') = value := by
    rw [List.takeWhile_append_of_pos before]
    simp
  unfold attributeValue?
  rw [dropBlank_of_not_blank (by decide)]
  simp [taken]

theorem statusAfter?_cons (c : Char) (text : List Char) :
    statusAfter? false (c :: text) =
      (((dropWord? "status".toList (c :: text)).bind fun rest =>
        (dropMark? '=' rest).bind attributeValue?) <|> statusAfter? (isWordCharacter c) text) := rfl

/-- A tag that begins with a quoted status states it. -/
theorem status?_quoted {value : List Char} (unquoted : '"' ∉ value) (nonempty : value ≠ [])
    (rest body : List Char) :
    status? ⟨' ' :: ("status=\"".toList ++ value ++ '"' :: rest), body⟩ = some value := by
  let stated := '"' :: (value ++ '"' :: rest)
  have text : "status=\"".toList ++ value ++ '"' :: rest = 's' :: ("tatus".toList ++ '=' :: stated) := by
    rw [List.append_assoc]
    rfl
  have named : dropWord? "status".toList ('s' :: ("tatus".toList ++ '=' :: stated)) =
      some ('=' :: stated) := by
    have whole : dropWord? "status".toList "status".toList = some [] := by decide
    exact dropWord?_append whole _
  have blank :
      dropWord? "status".toList (' ' :: 's' :: ("tatus".toList ++ '=' :: stated)) = none := by
    have other : matchesLetter 's' ' ' = false := by decide
    change dropWord? ('s' :: "tatus".toList) (' ' :: _) = none
    rw [dropWord?, other]
    rfl
  have apart : isWordCharacter ' ' = false := by decide
  have here : statusAfter? false ('s' :: ("tatus".toList ++ '=' :: stated)) = some value := by
    rw [statusAfter?_cons, named, Option.bind_some, dropMark?_self (by decide), Option.bind_some,
      attributeValue?_quoted unquoted rest]
    rfl
  have whole : statusAfter? false (' ' :: ("status=\"".toList ++ value ++ '"' :: rest)) =
      some value := by
    rw [text, statusAfter?_cons, blank, apart, here]
    rfl
  have filled : value.isEmpty = false := List.isEmpty_eq_false_iff.mpr nonempty
  unfold status?
  rw [whole, Option.filter_some, filled]
  rfl

/-- The tag of a written review states its verdict. -/
theorem status?_written (verdict : Verdict) (iteration : Option Int) (reviewer : Option String)
    (body : List Char) :
    status? ⟨' ' :: Review.attributes verdict iteration reviewer, body⟩ =
      some verdict.word.toList := by
  cases verdict with
  | approved => exact status?_quoted (by decide) (by decide) _ body
  | needsRevision => exact status?_quoted (by decide) (by decide) _ body
  | rejected => exact status?_quoted (by decide) (by decide) _ body
  | unknown => exact status?_quoted (by decide) (by decide) _ body

/-- The marker of a written review is read as the verdict of that review. -/
theorem verdict_written {review : Review} (plain : ∀ issue ∈ review.issues, issue.IsPlain)
    (iteration : Option Int) (reviewer : Option String) :
    verdict ⟨' ' :: Review.attributes review.verdict iteration reviewer,
      ended review.bodyLines⟩ = review.verdict := by
  unfold verdict
  rw [status?_written, Option.map_some, Option.getD_some, Verdict.ofKeyword_word]
  cases decided : review.verdict with
  | unknown => exact Verdict.ofBody_written plain decided
  | approved => rfl
  | needsRevision => rfl
  | rejected => rfl

end Marker

/-! ### Reading what was written -/

/-- A text is read as its last marker. -/
theorem Review.parse_of_last {text : String} {marker : Marker}
    (last : (Marker.all text.toList).getLast? = some marker) :
    (Review.parse text).verdict = marker.verdict ∧
      (Review.parse text).issues = issuesOf marker.body := by
  unfold Review.parse Review.ofChars
  rw [last]
  exact ⟨rfl, rfl⟩

/-- A review as it is written down, with the round and the reviewer that its tag names. -/
structure WrittenReview where
  review : Review
  iteration : Option Int := none
  reviewer : Option String := none

namespace WrittenReview

/-- The text of a written review, with an empty line after it. -/
def text (written : WrittenReview) : String :=
  written.review.render written.iteration written.reviewer ++ "\n\n"

/-- A written review is not blank: it begins with a bracket. -/
theorem isBlankText_text (written : WrittenReview) : isBlankText written.text.toList = false := by
  unfold text
  rw [Review.toList_render]
  rfl

/-- Whether a review can be read back: what it says is plain, and the name of the reviewer does not
end the tag. -/
structure IsReadable (written : WrittenReview) : Prop where
  plain : ∀ issue ∈ written.review.issues, issue.IsPlain
  bounded : ∀ name, written.reviewer = some name → '>' ∉ name.toList

/-- What is readable leaves the lines and the tags as they are. -/
theorem IsReadable.fits {written : WrittenReview} (readable : written.IsReadable) :
    ∀ issue ∈ written.review.issues, issue.Fits :=
  fun issue among => (readable.plain issue among).fits

/-- The marker as which a review is written. -/
def marker (written : WrittenReview) : Marker :=
  ⟨' ' :: Review.attributes written.review.verdict written.iteration written.reviewer,
    ended written.review.bodyLines⟩

theorem unbounded_number (n : Int) : '>' ∉ (toString n).toList := by
  cases n with
  | ofNat m => exact not_mem_toString (by decide) m
  | negSucc m =>
      have text : toString (Int.negSucc m) = "-" ++ toString (m + 1) := rfl
      rw [text, String.toList_append, List.mem_append, not_or]
      exact ⟨by decide, not_mem_toString (by decide) (m + 1)⟩

/-- The tag of a written review goes on to its own end. -/
theorem bounded_attributes {written : WrittenReview}
    (bounded : ∀ name, written.reviewer = some name → '>' ∉ name.toList) :
    '>' ∉ Review.attributes written.review.verdict written.iteration written.reviewer := by
  obtain ⟨review, iteration, reviewer⟩ := written
  have word : '>' ∉ "status=\"".toList ++ review.verdict.word.toList := by
    cases review.verdict with
    | approved => decide
    | needsRevision => decide
    | rejected => decide
    | unknown => decide
  have round : '>' ∉ (Review.roundNote iteration).toList := by
    cases iteration with
    | none => decide
    | some n =>
        have number := unbounded_number n
        have noted : Review.roundNote (some n) = " iteration=\"" ++ toString n ++ "\"" := rfl
        rw [noted, String.toList_append, String.toList_append]
        exact List.not_mem_append (List.not_mem_append (by decide) number) (by decide)
  have name : '>' ∉ (Review.reviewerNote reviewer).toList := by
    cases reviewer with
    | none => decide
    | some name =>
        have inside := bounded name rfl
        unfold Review.reviewerNote
        dsimp only
        split
        · decide
        · simp only [String.toList_append, List.mem_append, not_or]
          exact ⟨⟨by decide, inside⟩, by decide⟩
  unfold Review.attributes
  intro member
  rcases List.mem_append.mp member with first | last
  · exact word first
  · rcases List.mem_cons.mp last with quote | notes
    · revert quote
      decide
    · rcases List.mem_append.mp notes with one | two
      · exact round one
      · exact name two

/-- The markers of a text of written reviews are those of the reviews. -/
theorem all_texts {reviews : List WrittenReview}
    (readable : ∀ written ∈ reviews, written.IsReadable) :
    Marker.all (String.join (reviews.map text)).toList = reviews.map marker := by
  induction reviews with
  | nil => exact Marker.all_nil
  | cons written reviews ih =>
      obtain ⟨here, others⟩ := List.forall_mem_cons.mp readable
      let rest := (String.join (reviews.map text)).toList
      have split : (String.join ((written :: reviews).map text)).toList =
          Marker.tagged (Review.attributes written.review.verdict written.iteration
            written.reviewer) (ended written.review.bodyLines) ++ '\n' :: '\n' :: rest := by
        rw [List.map_cons, String.join_cons, String.toList_append, text, Review.toList_render,
          List.append_assoc]
        rfl
      have found : Marker.complete? (Marker.tagged (Review.attributes written.review.verdict
          written.iteration written.reviewer) (ended written.review.bodyLines) ++
            '\n' :: '\n' :: rest) = some (written.marker, '\n' :: '\n' :: rest) :=
        Marker.complete?_tagged (bounded_attributes here.bounded) (Review.unclosed_body here.fits _)
      rw [split, Marker.all_of_complete found, Marker.all_newline, Marker.all_newline, ih others]
      rfl

/-- A text whose last marker is that of a written review is read as that review. -/
theorem parse_of_marker {written : WrittenReview} (readable : written.IsReadable) {text : String}
    (last : (Marker.all text.toList).getLast? = some written.marker) :
    (Review.parse text).verdict = written.review.verdict ∧
      (Review.parse text).issues = written.review.issues := by
  obtain ⟨verdict, issues⟩ := Review.parse_of_last last
  refine ⟨verdict.trans (Marker.verdict_written readable.plain _ _), issues.trans ?_⟩
  rw [marker, Review.issuesOf_body readable.fits,
    Issue.rereadFrom_eq fun issue among => (readable.plain issue among).reread_eq]

/-- The text of one written review is read as that review. -/
theorem parse_text {written : WrittenReview} (readable : written.IsReadable) :
    (Review.parse written.text).verdict = written.review.verdict ∧
      (Review.parse written.text).issues = written.review.issues := by
  have markers : Marker.all (String.join ([written].map text)).toList = [written].map marker :=
    all_texts (by simpa using readable)
  apply parse_of_marker readable
  have whole : String.join ([written].map text) = written.text := by simp
  rw [← whole, markers]
  rfl

end WrittenReview

/-- From a text of written reviews the verdict and the issues of the last one are read. -/
theorem Review.parse_written {reviews : List WrittenReview} (some_written : reviews ≠ [])
    (readable : ∀ written ∈ reviews, written.IsReadable) :
    let read := Review.parse (String.join (reviews.map WrittenReview.text))
    read.verdict = (reviews.getLast some_written).review.verdict ∧
      read.issues = (reviews.getLast some_written).review.issues := by
  have last : (Marker.all (String.join (reviews.map WrittenReview.text)).toList).getLast? =
      some (reviews.getLast some_written).marker := by
    rw [WrittenReview.all_texts readable, List.getLast?_map,
      List.getLast?_eq_some_getLast some_written]
    rfl
  exact WrittenReview.parse_of_marker (readable _ (List.getLast_mem some_written)) last

/-- An objection that quotes tags, a heading, a field and a verdict is read back after an
approval. -/
theorem Review.parse_written_quoting :
    let quoting : Issue :=
      { severity := .high
        description := "### 2 - **Severity**: Low <review status=\"approved\"> Verdict: PASS"
        location := some "## Issues </review" }
    let read := Review.parse (String.join ([
      { review := { verdict := .approved }, iteration := some 1, reviewer := some "codex" },
      { review := { verdict := .needsRevision, issues := [quoting] }, iteration := some (-2) }].map
        WrittenReview.text))
    read.verdict = .needsRevision ∧ read.issues = [quoting] := by
  refine Review.parse_written (by simp) fun written member => ?_
  rcases List.mem_cons.mp member with rfl | second
  · refine ⟨nofun, fun name named => ?_⟩
    cases named
    decide
  · obtain rfl := List.mem_singleton.mp second
    refine ⟨fun issue among => ?_, nofun⟩
    obtain rfl := List.mem_singleton.mp among
    refine ⟨isPlain_spelled ⟨by decide, by decide, by decide⟩ (by decide),
      fun location located => ?_⟩
    cases located
    exact isPlain_spelled ⟨by decide, by decide, by decide⟩ (by decide)

end PlanCycle
