/-
Module: PlanCycle.Proofs.WrittenBody
Purpose: The body of a review that is written down: of which lines it consists, and which issues are
  read back from it.
Main exports:
  IsPlain, Issue.IsPlain, Fits, Issue.Fits, Review.bodyLines, Issue.forall_linesFrom,
  Review.forall_issueLines, Issue.reread, Finding.ofBlock_written, Review.issuesOf_body
-/
import PlanCycle.Proofs.Markers
import PlanCycle.Proofs.Numerals
import PlanCycle.Review.Reading
import PlanCycle.Review.Rendering

namespace PlanCycle

open Number Text Marker

/-! ### What a review may say -/

/-- Whether a text can stand as a value in a written review: it fits on a line, is not empty, has
no blanks at its ends and holds no closing tag. -/
structure IsPlain (text : String) : Prop where
  isValue : IsValue text.toList
  unclosed : untilClosing? text.toList = none

/-- A text that is given literally is judged by its letters, without being decoded. -/
theorem isPlain_spelled {letters : List Char} (isValue : IsValue letters)
    (unclosed : untilClosing? letters = none) : IsPlain (String.ofList letters) := by
  refine ⟨?_, ?_⟩ <;> rwa [String.toList_ofList]

/-- Whether what an issue says can stand in a written review. -/
structure Issue.IsPlain (issue : Issue) : Prop where
  description : PlanCycle.IsPlain issue.description
  location : ∀ location, issue.location = some location → PlanCycle.IsPlain location

/-- Whether a text leaves the lines of a written review and its tags as they are: it holds neither a
line feed nor a closing tag. -/
structure Fits (text : String) : Prop where
  unbroken : '\n' ∉ text.toList
  unclosed : untilClosing? text.toList = none

/-- Whether what an issue says leaves the lines of a written review and its tags as they are. -/
structure Issue.Fits (issue : Issue) : Prop where
  description : PlanCycle.Fits issue.description
  location : ∀ location, issue.location = some location → PlanCycle.Fits location

theorem IsPlain.fits {text : String} (plain : IsPlain text) : Fits text :=
  ⟨plain.isValue.isLine.newline_not_mem, plain.unclosed⟩

theorem Issue.IsPlain.fits {issue : Issue} (plain : issue.IsPlain) : issue.Fits :=
  ⟨plain.description.fits, fun location located => (plain.location location located).fits⟩

/-! ### The lines of a written review -/

/-- The line of a field. -/
def fieldLine (name value : List Char) : List Char :=
  "- **".toList ++ name ++ "**: ".toList ++ value

/-- The place that a written issue names; an empty one is left out. -/
def Issue.place? (issue : Issue) : Option String :=
  issue.location.filter (!·.isEmpty)

/-- The fields of a written issue. -/
def Issue.fields (issue : Issue) : List (List Char × List Char) :=
  [("Severity".toList, issue.severity.title.toList),
    ("Description".toList, issue.description.toList)] ++
    issue.place?.toList.map fun place => ("Location".toList, place.toList)

/-- The lines below the heading of a written issue. -/
def Issue.linesBelow (issue : Issue) : List (List Char) :=
  (issue.fields.map fun field => fieldLine field.1 field.2) ++ [[]]

/-- The title of the issue with a number. -/
def Issue.title (number : Nat) : List Char :=
  "Issue ".toList ++ (toString number).toList

theorem Issue.toList_lines (issue : Issue) (number : Nat) :
    (issue.lines number).map String.toList = headed 3 (title number) :: issue.linesBelow := by
  have heading : ("### Issue " ++ toString number).toList = headed 3 (title number) := by
    rw [String.toList_append]
    rfl
  have severity : ("- **Severity**: " ++ issue.severity.title).toList =
      fieldLine "Severity".toList issue.severity.title.toList := by
    rw [String.toList_append]
    rfl
  have description : ("- **Description**: " ++ issue.description).toList =
      fieldLine "Description".toList issue.description.toList := by
    rw [String.toList_append]
    rfl
  have location (place : String) : ("- **Location**: " ++ place).toList =
      fieldLine "Location".toList place.toList := by
    rw [String.toList_append]
    rfl
  unfold lines linesBelow fields place?
  cases issue.location with
  | none => simp only [List.map_cons, List.map_nil, heading, severity, description,
      List.append_nil, String.toList_empty, List.cons_append, List.nil_append, Option.filter_none,
      Option.toList_none]
  | some place =>
      cases empty : place.isEmpty with
      | true => simp only [List.map_cons, List.map_nil, heading, severity, description, empty,
          if_true, Bool.not_true, Bool.false_eq_true, if_false, List.append_nil,
          String.toList_empty, List.cons_append, List.nil_append, Option.filter_some,
          Option.toList_none]
      | false => simp only [List.map_cons, List.map_nil, heading, severity, description, location,
          empty, if_true, Bool.not_false, Bool.false_eq_true, if_false, String.toList_empty,
          List.cons_append, List.nil_append, Option.filter_some, Option.toList_some]

namespace Review

/-- The lines of the issues of a written review. -/
def issueLines (review : Review) : List (List Char) :=
  if review.issues.isEmpty then ["(none)".toList, []]
  else (Issue.linesFrom 1 review.issues).map String.toList

/-- The lines of the body of a written review. -/
def bodyLines (review : Review) : List (List Char) :=
  [[], [], headed 2 "Issues".toList, []] ++ review.issueLines ++
    [headed 2 "Verdict".toList, [], review.verdict.capitals.toList, []]

end Review

/-! ### What all lines of a written review have in common -/

/-- The names of the fields of a written issue. -/
def fieldTitles : List (List Char) :=
  ["Severity".toList, "Description".toList, "Location".toList]

/-- Whether a field leaves the lines of a written review and its tags as they are. -/
structure FitsField (field : List Char × List Char) : Prop where
  named : field.1 ∈ fieldTitles
  unbroken : '\n' ∉ field.2
  unclosed : untilClosing? field.2 = none

/-- What holds of the title of a severity, of a description and of a place holds of fields. -/
theorem Issue.forall_fields {holds : List Char × List Char → Prop} {issue : Issue}
    (severity : holds ("Severity".toList, issue.severity.title.toList))
    (description : holds ("Description".toList, issue.description.toList))
    (location : ∀ place, issue.location = some place → holds ("Location".toList, place.toList)) :
    ∀ field ∈ issue.fields, holds field := by
  unfold fields place?
  rw [List.forall_mem_append, List.forall_mem_cons, List.forall_mem_singleton]
  refine ⟨⟨severity, description⟩, fun field member => ?_⟩
  obtain ⟨place, named, rfl⟩ := List.mem_map.mp member
  obtain ⟨located, -⟩ := Option.filter_eq_some_iff.mp (Option.mem_toList.mp named)
  exact location place located

theorem isLine_severity (severity : Severity) : IsLine severity.title.toList := by
  cases severity with
  | high => decide
  | medium => decide
  | low => decide

theorem unclosed_severity (severity : Severity) : untilClosing? severity.title.toList = none := by
  cases severity with
  | high => decide
  | medium => decide
  | low => decide

theorem Issue.Fits.fields {issue : Issue} (fits : issue.Fits) :
    ∀ field ∈ issue.fields, FitsField field :=
  forall_fields
    ⟨.head _, (isLine_severity issue.severity).newline_not_mem, unclosed_severity issue.severity⟩
    ⟨.tail _ (.head _), fits.description.unbroken, fits.description.unclosed⟩
    fun place located => ⟨.tail _ (.tail _ (.head _)), (fits.location place located).unbroken,
      (fits.location place located).unclosed⟩

/-- What holds of fields and of empty lines holds of the lines below a heading. -/
theorem Issue.forall_linesBelow {holds : List Char → Prop} {issue : Issue}
    (field : ∀ field ∈ issue.fields, holds (fieldLine field.1 field.2)) (empty : holds []) :
    ∀ line ∈ issue.linesBelow, holds line := by
  intro line member
  rcases List.mem_append.mp member with among | last
  · obtain ⟨known, belongs, rfl⟩ := List.mem_map.mp among
    exact field known belongs
  · rw [List.mem_singleton.mp last]
    exact empty

/-- What holds of headings, fields and empty lines holds of all lines of written issues. -/
theorem Issue.forall_linesFrom {holds : List Char → Prop} {issues : List Issue}
    (heading : ∀ number, holds (headed 3 (title number)))
    (field : ∀ issue ∈ issues, ∀ field ∈ issue.fields, holds (fieldLine field.1 field.2))
    (empty : holds []) (number : Nat) :
    ∀ line ∈ (linesFrom number issues).map String.toList, holds line := by
  induction issues generalizing number with
  | nil => simp [linesFrom]
  | cons issue issues ih =>
      obtain ⟨here, others⟩ := List.forall_mem_cons.mp field
      rw [linesFrom, List.map_append, toList_lines, List.forall_mem_append, List.forall_mem_cons]
      constructor
      · exact ⟨heading number, forall_linesBelow here empty⟩
      · exact ih others (number + 1)

theorem not_mem_toString {c : Char} (other : c.isDigit = false) (number : Nat) :
    c ∉ (toString number).toList := by
  intro member
  rw [isDigit_of_mem_digitsOf member] at other
  cases other

/-- The title of an issue is a value. -/
theorem isValue_title (number : Nat) : IsValue (Issue.title number) := by
  have some_digit : (toString number).toList ≠ [] := digitsOf_ne_nil number
  have start : IsLine "Issue ".toList := by decide
  have first : Issue.title number = 'I' :: ("ssue ".toList ++ (toString number).toList) := rfl
  have last : Issue.title number = ("Issue ".toList ++ (toString number).toList.dropLast) ++
      [(toString number).toList.getLast some_digit] := by
    rw [List.append_assoc, List.dropLast_concat_getLast some_digit]
    rfl
  have digits : ∀ c ∈ (toString number).toList, isLineBreak c = false ∧ isBlank c = false :=
    fun c member => visible_digit (isDigit_of_mem_digitsOf member)
  exact .of_ends (start.append fun c member => (digits c member).1) first last (by decide)
    (digits _ (List.getLast_mem some_digit)).2

theorem isLine_fieldLine {field : List Char × List Char} (named : field.1 ∈ fieldTitles)
    (isLine : IsLine field.2) : IsLine (fieldLine field.1 field.2) := by
  have start : ∀ name ∈ fieldTitles, IsLine ("- **".toList ++ name ++ "**: ".toList) := by decide
  exact (start field.1 named).append isLine

theorem unbroken_fieldLine {field : List Char × List Char} (fits : FitsField field) :
    '\n' ∉ fieldLine field.1 field.2 := by
  have start : ∀ name ∈ fieldTitles, '\n' ∉ "- **".toList ++ name ++ "**: ".toList := by decide
  exact List.not_mem_append (start field.1 fits.named) fits.unbroken

theorem Issue.IsPlain.isLine_fields {issue : Issue} (plain : issue.IsPlain) :
    ∀ field ∈ issue.fields, IsLine field.2 :=
  forall_fields (isLine_severity issue.severity) plain.description.isValue.isLine
    fun place located => (plain.location place located).isValue.isLine

theorem unheaded_fieldLine (field : List Char × List Char) (signs : Nat) :
    Unheaded (.exactly (signs + 1)) (fieldLine field.1 field.2) :=
  unheaded_cons (by decide) signs _

namespace Review

/-- What holds of the lines of written issues, and of the one that says there are none, holds of
the lines of the issues of a review. -/
theorem forall_issueLines {holds : List Char → Prop} {review : Review}
    (heading : ∀ number, holds (headed 3 (Issue.title number)))
    (field : ∀ issue ∈ review.issues, ∀ field ∈ issue.fields, holds (fieldLine field.1 field.2))
    (empty : holds []) (none_named : holds "(none)".toList) :
    ∀ line ∈ review.issueLines, holds line := by
  unfold issueLines
  split
  · rw [List.forall_mem_cons, List.forall_mem_singleton]
    exact ⟨none_named, empty⟩
  · exact Issue.forall_linesFrom heading field empty 1

theorem isLine_issueLines {review : Review} (plain : ∀ issue ∈ review.issues, issue.IsPlain) :
    ∀ line ∈ review.issueLines, IsLine line :=
  forall_issueLines (fun number => isLine_headed (isValue_title number).isLine 3)
    (fun issue among field known => isLine_fieldLine ((plain issue among).fits.fields field known).named
      ((plain issue among).isLine_fields field known))
    .nil (by decide)

section
variable {review : Review} (fits : ∀ issue ∈ review.issues, issue.Fits)
include fits

theorem unbroken_issueLines : ∀ line ∈ review.issueLines, '\n' ∉ line :=
  forall_issueLines
    (fun number => (isLine_headed (isValue_title number).isLine 3).newline_not_mem)
    (fun issue among field known => unbroken_fieldLine ((fits issue among).fields field known))
    (by decide) (by decide)

/-- The issues are looked for in their section. -/
theorem issueScope_body :
    issueScope (ended review.bodyLines) = ended ([[], []] ++ review.issueLines) := by
  have issues : IsValue "Issues".toList := ⟨by decide, by decide, by decide⟩
  have verdict : IsValue "Verdict".toList := ⟨by decide, by decide, by decide⟩
  have unheaded : ∀ line ∈ [] :: review.issueLines, Unheaded (.exactly 2) line := by
    rw [List.forall_mem_cons]
    constructor
    · exact unheaded_nil 1
    · exact forall_issueLines (fun number => unheaded_deeper 2 (Issue.title number))
        (fun _ _ field _ => unheaded_fieldLine field 1) (unheaded_nil 1)
        (unheaded_cons (by decide) 1 "none)".toList)
  have unbroken : ∀ line ∈ [] :: review.issueLines, '\n' ∉ line :=
    List.forall_mem_cons.mpr ⟨by decide, unbroken_issueLines fits⟩
  have whole : ended review.bodyLines = ended [[], []] ++ (headed 2 "Issues".toList ++ '\n' ::
      (ended ([] :: review.issueLines) ++ (headed 2 "Verdict".toList ++ '\n' ::
        ended [[], review.verdict.capitals.toList, []]))) := by
    unfold bodyLines
    generalize headed 2 "Issues".toList = upper
    generalize headed 2 "Verdict".toList = lower
    simp
  have parts : ∃ more, (sections (.exactly 2) (ended review.bodyLines)).parts =
      ("Issues".toList, '\n' :: ended ([] :: review.issueLines)) :: more := by
    unfold sections
    rw [whole, sectionsFrom_ended (by decide) (by simpa using unheaded_nil 1),
      sectionsFrom_headed issues, sectionsFrom_ended unbroken unheaded,
      sectionsFrom_headed verdict]
    dsimp only
    rw [List.append_nil]
    exact ⟨_, rfl⟩
  obtain ⟨more, parts⟩ := parts
  have chosen : (lowerCase (trim "Issues".toList) == "issues".toList) = true := by decide
  unfold issueScope
  rw [parts, List.find?_cons_of_pos (by exact chosen)]
  rfl

end

end Review

/-! ### The fields of an issue -/

namespace Finding

theorem fieldsFrom_of_field {text rest : List Char} {field : List Char × List Char}
    (found : field? text = some (field, rest)) :
    fieldsFrom true text = field :: fieldsFrom false rest := by
  rw [fieldsFrom]
  split
  · rename_i other same
    rw [if_pos rfl, found] at same
    cases same
    rfl
  · rename_i absent
    rw [if_pos rfl, found] at absent
    cases absent

theorem fieldsFrom_newline (rest : List Char) :
    fieldsFrom false ('\n' :: rest) = fieldsFrom true rest := by
  rw [fieldsFrom]
  split
  · rename_i found
    cases found
  · rfl

/-- The name of a field is read as it is written. -/
theorem fieldName?_of_title {name : List Char} (known : name ∈ fieldTitles) (rest : List Char) :
    fieldName? (name ++ rest) = some (name, rest) := by
  have other {letter c : Char} (differs : matchesLetter letter c = false) (word text : List Char) :
      dropWord? (letter :: word) (c :: text) = none := by
    rw [dropWord?, differs]
    rfl
  have spelled (word : List Char) (whole : dropWord? word name = some []) :
      dropWord? word (name ++ rest) = some rest := dropWord?_append whole rest
  have taken (word : String) (size : word.length = name.length) :
      (name ++ rest).take word.length = name := by
    rw [size, List.take_left]
  unfold fieldName? fieldNames
  unfold fieldTitles at known
  simp only [List.mem_cons, List.not_mem_nil, or_false] at known
  rcases known with rfl | rfl | rfl
  · rw [List.findSome?_cons, spelled _ (by decide), Option.map_some, taken _ (by decide)]
  · have one : dropWord? "severity".toList ("Description".toList ++ rest) = none :=
      other (by decide) _ _
    rw [List.findSome?_cons, one, Option.map_none]
    dsimp only
    rw [List.findSome?_cons, spelled _ (by decide), Option.map_some, taken _ (by decide)]
  · have one : dropWord? "severity".toList ("Location".toList ++ rest) = none :=
      other (by decide) _ _
    have two : dropWord? "description".toList ("Location".toList ++ rest) = none :=
      other (by decide) _ _
    rw [List.findSome?_cons, one, Option.map_none]
    dsimp only
    rw [List.findSome?_cons, two, Option.map_none]
    dsimp only
    rw [List.findSome?_cons, spelled _ (by decide), Option.map_some, taken _ (by decide)]

/-- A line of a field is read as its name and what remains of the line, or of a later one. -/
theorem field?_fieldLine {name : List Char} (known : name ∈ fieldTitles)
    (value rest : List Char) :
    field? (fieldLine name value ++ rest) =
      (lineRemainder? ([' '] ++ value ++ rest)).map fun found => ((name, found.1), found.2) := by
  have bold : boldField? ('*' :: '*' :: (name ++ '*' :: '*' :: ':' :: ' ' :: (value ++ rest))) =
      (lineRemainder? ([' '] ++ value ++ rest)).map fun found => ((name, found.1), found.2) := by
    have colon : dropBlank (':' :: ' ' :: (value ++ rest)) = ':' :: ' ' :: (value ++ rest) :=
      dropBlank_of_not_blank (by decide) _
    unfold boldField?
    simp only [fieldName?_of_title known, Option.bind_eq_bind, Option.bind_some, colon]
    exact (Option.map_eq_bind ..).symm
  have split : fieldLine name value ++ rest = '-' :: ' ' :: '*' :: '*' ::
      (name ++ '*' :: '*' :: ':' :: ' ' :: (value ++ rest)) := by
    unfold fieldLine
    rw [List.append_assoc, List.append_assoc, List.append_assoc]
    rfl
  have bullet : dropBlank (' ' :: '*' :: '*' :: (name ++ '*' :: '*' :: ':' :: ' ' ::
      (value ++ rest))) = '*' :: '*' :: (name ++ '*' :: '*' :: ':' :: ' ' :: (value ++ rest)) := by
    rw [dropBlank_of_blank (by decide), dropBlank_of_not_blank (by decide)]
  have plain : boldField? ('-' :: ' ' :: '*' :: '*' ::
      (name ++ '*' :: '*' :: ':' :: ' ' :: (value ++ rest))) = none := rfl
  unfold field?
  rw [split, dropBlank_of_not_blank (by decide)]
  dsimp only
  rw [if_pos (.inl rfl), bullet, bold, plain, Option.orElse_eq_orElse, Option.orElse_eq_or,
    Option.or_none]

/-- An empty line has no part in the fields after it. -/
theorem fieldsFrom_emptyLine (text : List Char) :
    fieldsFrom true ('\n' :: text) = fieldsFrom true text := by
  have same : field? ('\n' :: text) = field? text := by
    unfold field?
    rw [dropBlank_of_blank (by decide)]
  cases found : field? text with
  | some field =>
      obtain ⟨field, rest⟩ := field
      rw [fieldsFrom_of_field found, fieldsFrom_of_field (same.trans found)]
  | none =>
      rw [fieldsFrom]
      split
      · rename_i other
        rw [if_pos rfl, same, found] at other
        cases other
      · rfl

theorem fieldsFrom_nil : fieldsFrom true [] = [] := by
  rw [fieldsFrom]
  rfl

/-- As which fields the lines of fields are read: where no value stands, the next line is taken for
one. -/
def rereadFields : List (List Char × List Char) → List (List Char × List Char)
  | [] => []
  | field :: known =>
    if trim field.2 = [] then
      match known with
      | [] => [(field.1, [])]
      | next :: known => (field.1, trim (fieldLine next.1 next.2)) :: rereadFields known
    else (field.1, trim field.2) :: rereadFields known

theorem rereadFields_of_visible {name value : List Char} (visible : trim value ≠ [])
    (known : List (List Char × List Char)) :
    rereadFields ((name, value) :: known) = (name, trim value) :: rereadFields known := by
  rw [rereadFields.eq_def]
  exact if_neg visible

theorem rereadFields_of_blank {name value : List Char} (blank : trim value = [])
    (next : List Char × List Char) (known : List (List Char × List Char)) :
    rereadFields ((name, value) :: next :: known) =
      (name, trim (fieldLine next.1 next.2)) :: rereadFields known := by
  rw [rereadFields.eq_def]
  exact if_pos blank

theorem rereadFields_singleton (field : List Char × List Char) :
    rereadFields [field] = [(field.1, trim field.2)] := by
  rw [rereadFields.eq_def]
  dsimp only
  split
  · rename_i blank
    rw [blank]
  · rfl

theorem trim_fieldLine_ne_nil (field : List Char × List Char) :
    trim (fieldLine field.1 field.2) ≠ [] := by
  rw [ne_eq, trim_eq_nil_iff]
  intro blank
  have first := blank '-' List.mem_cons_self
  revert first
  decide

theorem fieldsFrom_fieldLine {name value rest found after : List Char} (known : name ∈ fieldTitles)
    (left : lineRemainder? ([' '] ++ value ++ rest) = some (found, after)) :
    fieldsFrom true (fieldLine name value ++ rest) = (name, found) :: fieldsFrom false after := by
  apply fieldsFrom_of_field
  rw [field?_fieldLine known, left]
  rfl

/-- Lines of fields and an empty line after them are read as these fields, as far as each has a
value. -/
theorem fieldsFrom_ended {known : List (List Char × List Char)}
    (fits : ∀ field ∈ known, FitsField field) :
    (fieldsFrom true (ended ((known.map fun field => fieldLine field.1 field.2) ++ [[]]))).map
      (fun field => (field.1, trim field.2)) = rereadFields known := by
  have spaced {value : List Char} (blank : trim value = []) : ∀ c ∈ [' '] ++ value,
      isBlank c = true :=
    List.forall_mem_append.mpr ⟨List.all_eq_true.mp (by decide), trim_eq_nil_iff.mp blank⟩
  have ends : fieldsFrom true (ended [[]]) = [] := (fieldsFrom_emptyLine []).trans fieldsFrom_nil
  fun_induction rereadFields known with
  | case1 => exact congrArg _ ends
  | case2 field blank =>
      have here := fits field List.mem_cons_self
      have blanks : ∀ c ∈ [' '] ++ field.2 ++ ['\n', '\n'], isBlank c = true :=
        List.forall_mem_append.mpr ⟨spaced blank, List.all_eq_true.mp (by decide)⟩
      obtain ⟨c, blankMark, left⟩ := lineRemainder?_blank blanks ⟨' ', .head _, by decide⟩
      have none : trim [c] = [] := trim_eq_nil_iff.mpr (List.forall_mem_singleton.mpr blankMark)
      have whole : ended ([field].map (fun field => fieldLine field.1 field.2) ++ [[]]) =
          fieldLine field.1 field.2 ++ ['\n', '\n'] := ended_cons ..
      have nothing : fieldsFrom false [] = [] := by
        rw [fieldsFrom]
        rfl
      rw [whole, fieldsFrom_fieldLine here.named left, nothing, List.map_singleton, none]
  | case3 field blank next known ih =>
      obtain ⟨here, following, others⟩ := by
        simpa only [List.forall_mem_cons] using fits
      have blanks : ∀ c ∈ [' '] ++ field.2 ++ ['\n'], isBlank c = true :=
        List.forall_mem_append.mpr ⟨spaced blank, List.all_eq_true.mp (by decide)⟩
      have left (after : List Char) : lineRemainder? ([' '] ++ field.2 ++
          '\n' :: (fieldLine next.1 next.2 ++ '\n' :: after)) =
          some (trim (fieldLine next.1 next.2), '\n' :: after) := by
        have found := lineRemainder?_line blanks (unbroken_fieldLine following)
          (trim_fieldLine_ne_nil next) after
        rwa [List.append_assoc, List.append_assoc] at found
      rw [List.map_cons, List.map_cons, List.cons_append, List.cons_append, ended_cons, ended_cons,
        fieldsFrom_fieldLine here.named (left _), fieldsFrom_newline, List.map_cons, ih others,
        trim_trim]
  | case4 field known visible ih =>
      obtain ⟨here, others⟩ := List.forall_mem_cons.mp fits
      rw [List.map_cons, List.cons_append, ended_cons, fieldsFrom_fieldLine here.named
        (lineRemainder?_line (List.all_eq_true.mp (by decide)) here.unbroken visible _), fieldsFrom_newline,
        List.map_cons, ih others, trim_trim]

theorem ofWord?_title (severity : Severity) :
    Severity.ofWord? severity.title.toList = some severity := by
  cases severity with
  | high => decide
  | medium => decide
  | low => decide

/-- A block says what its fields say. -/
theorem ofBlock_of_fields {title block described : List Char} {level : Severity}
    {place : Option (List Char)}
    (known : fields block = ("severity".toList, level.title.toList) ::
      ("description".toList, described) :: place.toList.map fun place => ("location".toList, place)) :
    ofBlock title block = some (.named ⟨level,
      String.ofList (if described = [] then trim title else described),
      place.map String.ofList⟩) := by
  have rated : value? (fields block) "severity" = some level.title.toList := by
    rw [known]
    cases place with
    | none => rfl
    | some place => rfl
  have named : value? (fields block) "description" = some described := by
    rw [known]
    cases place with
    | none => rfl
    | some place => rfl
  have placed : value? (fields block) "location" = place := by
    rw [known]
    cases place with
    | none => rfl
    | some place => rfl
  have some_field : (fields block).isEmpty = false := by
    rw [known]
    rfl
  unfold ofBlock
  simp only [some_field, rated, named, placed, ofWord?_title, Option.getD_some,
    Bool.false_eq_true, if_false, List.isEmpty_iff]

end Finding

namespace Issue

/-- The description with which a written issue is read: its own one, or the line of its place where
it has none. -/
def describedAs (issue : Issue) : List Char :=
  if trim issue.description.toList = [] then
    issue.place?.elim [] fun place => trim (fieldLine "Location".toList place.toList)
  else trim issue.description.toList

/-- The place with which a written issue is read, unless its line is taken for the description. -/
def placedAt (issue : Issue) : Option (List Char) :=
  if trim issue.description.toList = [] then none
  else issue.place?.map fun place => trim place.toList

/-- The issue as which the written issue with a number is read.  Without a description it has its
title for one. -/
def reread (number : Nat) (issue : Issue) : Issue :=
  ⟨issue.severity,
    String.ofList (if issue.describedAs = [] then title number else issue.describedAs),
    issue.placedAt.map String.ofList⟩

/-- The issues as which written issues are read, numbered from the given number on. -/
def rereadFrom (number : Nat) : List Issue → List Issue
  | [] => []
  | issue :: issues => issue.reread number :: rereadFrom (number + 1) issues

/-- An issue is read back if neither its description nor its place is empty or has blanks at its
ends. -/
theorem reread_eq {issue : Issue}
    (description : trim issue.description.toList = issue.description.toList ∧
      issue.description.toList ≠ [])
    (location : ∀ place, issue.location = some place →
      trim place.toList = place.toList ∧ place.toList ≠ [])
    (number : Nat) : issue.reread number = issue := by
  obtain ⟨level, text, place⟩ := issue
  obtain ⟨trimmed, nonempty⟩ : trim text.toList = text.toList ∧ text.toList ≠ [] := description
  have visible : trim text.toList ≠ [] := trimmed.symm ▸ nonempty
  have described : describedAs ⟨level, text, place⟩ = text.toList := (if_neg visible).trans trimmed
  have placed : (placedAt ⟨level, text, place⟩).map String.ofList = place := by
    unfold placedAt place?
    rw [if_neg visible]
    cases place with
    | none => rfl
    | some place =>
        obtain ⟨same, some_place⟩ := location place rfl
        have full : place.isEmpty = false := by simpa using some_place
        rw [Option.filter_some, full, Bool.not_false, if_pos rfl, Option.map_some, Option.map_some,
          same, String.ofList_toList]
  unfold reread
  rw [described, placed, if_neg nonempty, String.ofList_toList]

theorem IsPlain.reread_eq {issue : Issue} (plain : issue.IsPlain) (number : Nat) :
    issue.reread number = issue :=
  Issue.reread_eq ⟨plain.description.isValue.trimmed, plain.description.isValue.nonempty⟩
    (fun place located => ⟨(plain.location place located).isValue.trimmed,
      (plain.location place located).isValue.nonempty⟩) number

theorem rereadFrom_eq {issues : List Issue}
    (kept : ∀ issue ∈ issues, ∀ number, issue.reread number = issue) (number : Nat) :
    rereadFrom number issues = issues := by
  induction issues generalizing number with
  | nil => rfl
  | cons issue issues ih =>
      obtain ⟨here, others⟩ := List.forall_mem_cons.mp kept
      rw [rereadFrom, here number, ih others]

end Issue

namespace Finding

theorem rereadFields_fields (issue : Issue) :
    rereadFields issue.fields = ("Severity".toList, issue.severity.title.toList) ::
      ("Description".toList, issue.describedAs) ::
        issue.placedAt.toList.map fun place => ("Location".toList, place) := by
  have rated : trim issue.severity.title.toList = issue.severity.title.toList := by
    cases issue.severity with
    | high => decide
    | medium => decide
    | low => decide
  have visible : trim issue.severity.title.toList ≠ [] := by
    cases issue.severity with
    | high => decide
    | medium => decide
    | low => decide
  unfold Issue.fields Issue.describedAs Issue.placedAt
  rw [List.cons_append, List.singleton_append, rereadFields_of_visible visible, rated]
  congr 1
  by_cases blank : trim issue.description.toList = []
  · rw [if_pos blank, if_pos blank]
    cases issue.place? with
    | none => exact (rereadFields_singleton _).trans (congrArg (fun text => [(_, text)]) blank)
    | some place => exact rereadFields_of_blank blank _ []
  · rw [if_neg blank, if_neg blank, rereadFields_of_visible blank]
    cases issue.place? with
    | none => rfl
    | some place => exact congrArg _ (rereadFields_singleton _)

/-- The block of an issue is read as that issue, as far as it has a description. -/
theorem ofBlock_written {issue : Issue} (fits : issue.Fits) (number : Nat) :
    ofBlock (Issue.title number) ('\n' :: ended issue.linesBelow) =
      some (.named (issue.reread number)) := by
  have severity : lowerCase "Severity".toList = "severity".toList := by decide
  have description : lowerCase "Description".toList = "description".toList := by decide
  have location : lowerCase "Location".toList = "location".toList := by decide
  have known : fields ('\n' :: ended issue.linesBelow) =
      ("severity".toList, issue.severity.title.toList) ::
        ("description".toList, issue.describedAs) ::
          issue.placedAt.toList.map fun place => ("location".toList, place) := by
    unfold fields Issue.linesBelow
    rw [fieldsFrom_emptyLine, ← severity, ← description, ← location]
    calc ((fieldsFrom true _).map fun field => (lowerCase field.1, trim field.2))
        = (rereadFields issue.fields).map fun field => (lowerCase field.1, field.2) := by
          rw [← fieldsFrom_ended fits.fields, List.map_map]
          rfl
      _ = _ := by
          rw [rereadFields_fields, List.map_cons, List.map_cons, List.map_map]
          rfl
  rw [ofBlock_of_fields known, (isValue_title number).trimmed]
  rfl

/-! ### The issues of a written review -/

/-- The blocks of written issues, numbered from the given number on. -/
def blocksFrom (number : Nat) : List Issue → List (List Char × List Char)
  | [] => []
  | issue :: issues =>
    (Issue.title number, '\n' :: ended issue.linesBelow) :: blocksFrom (number + 1) issues

/-- The lines of written issues are cut into the blocks of these issues. -/
theorem sectionsFrom_linesFrom {issues : List Issue} (fits : ∀ issue ∈ issues, issue.Fits)
    (number : Nat) :
    sectionsFrom (.exactly 3) true (ended ((Issue.linesFrom number issues).map String.toList)) =
      ⟨[], blocksFrom number issues⟩ := by
  induction issues generalizing number with
  | nil => exact sectionsFrom_nil rfl
  | cons issue issues ih =>
      obtain ⟨here, others⟩ := List.forall_mem_cons.mp fits
      have unbroken : ∀ line ∈ issue.linesBelow, '\n' ∉ line :=
        Issue.forall_linesBelow (fun field known => unbroken_fieldLine (here.fields field known))
          (by decide)
      have unheaded : ∀ line ∈ issue.linesBelow, Unheaded (.exactly 3) line :=
        Issue.forall_linesBelow (fun field _ => unheaded_fieldLine field 2) (unheaded_nil 2)
      rw [Issue.linesFrom, List.map_append, Issue.toList_lines, List.cons_append, ended_cons,
        ended_append, sectionsFrom_headed (isValue_title number),
        sectionsFrom_ended unbroken unheaded, ih others (number + 1)]
      dsimp only
      rw [List.append_nil]
      rfl

theorem ofBlocks_written {issues : List Issue} (fits : ∀ issue ∈ issues, issue.Fits)
    (number : Nat) :
    ((blocksFrom number issues).filterMap fun part => ofBlock part.1 part.2) =
      (Issue.rereadFrom number issues).map .named := by
  induction issues generalizing number with
  | nil => rfl
  | cons issue issues ih =>
      obtain ⟨here, others⟩ := List.forall_mem_cons.mp fits
      have read := ofBlock_written here number
      rw [blocksFrom, List.filterMap_cons, ih others (number + 1)]
      dsimp only
      rw [read]
      rfl

end Finding

/-- From the body of a written review its issues are read, as far as they can be read back. -/
theorem Review.issuesOf_body {review : Review} (fits : ∀ issue ∈ review.issues, issue.Fits) :
    issuesOf (ended review.bodyLines) = Issue.rereadFrom 1 review.issues := by
  have start : ∀ line ∈ ([[], []] : List (List Char)), Unheaded (.exactly 3) line := by
    simpa using unheaded_nil 2
  unfold issuesOf findings
  rw [issueScope_body fits]
  unfold issueLines
  by_cases silent : review.issues.isEmpty = true
  · -- The line that says there are none is no item either.
    let lines : List (List Char) := [[], []] ++ ["(none)".toList, []]
    have unheaded : ∀ line ∈ lines, Unheaded (.exactly 3) line := by
      have said : Unheaded (.exactly 3) "(none)".toList :=
        unheaded_cons (by decide) 2 "none)".toList
      refine List.forall_mem_append.mpr ⟨start, ?_⟩
      rw [List.forall_mem_cons, List.forall_mem_singleton]
      exact ⟨said, unheaded_nil 2⟩
    have blocks : Finding.ofBlocks (ended lines) = [] := by
      have whole := sectionsFrom_ended (by decide) unheaded []
      rw [List.append_nil, sectionsFrom_nil rfl] at whole
      unfold Finding.ofBlocks sections
      rw [whole]
      rfl
    have items : Finding.ofItems (ended lines) = [] := by
      unfold Finding.ofItems
      rw [splitLines_ended (by decide)]
      decide
    rw [if_pos silent, List.isEmpty_iff.1 silent, blocks]
    exact congrArg (List.filterMap Finding.issue?) items
  · rw [if_neg silent]
    have blocks : Finding.ofBlocks (ended ([[], []] ++
        (Issue.linesFrom 1 review.issues).map String.toList)) =
          (Issue.rereadFrom 1 review.issues).map .named := by
      unfold Finding.ofBlocks sections
      rw [ended_append, sectionsFrom_ended (by decide) start,
        Finding.sectionsFrom_linesFrom fits]
      exact Finding.ofBlocks_written fits 1
    rw [blocks]
    cases named : review.issues with
    | nil => simp [named] at silent
    | cons issue issues =>
        simp [Issue.rereadFrom, List.filterMap_map, Function.comp_def, Finding.issue?]

end PlanCycle
