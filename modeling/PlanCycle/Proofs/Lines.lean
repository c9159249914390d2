/-
Module: PlanCycle.Proofs.Lines
Purpose: Texts that consist of whole lines: how they are cut into lines, headings and values.
Main exports:
  Text.ended, Text.HasWholeLines, Text.IsLine, Text.splitLines_ended,
  Text.toList_joinLines_append, Text.IsValue, Text.lineRemainder?_ended, Text.sectionsFrom_headed,
  Text.sectionsFrom_ended
-/
import PlanCycle.Text.Heading

namespace PlanCycle.Text

/-! ### Whole lines -/

/-- The text of some lines, each with a line feed at its end. -/
def ended (lines : List (List Char)) : List Char :=
  lines.flatMap (· ++ ['\n'])

/-- Whether a text consists of whole lines: it ends with a line feed or is empty. -/
def HasWholeLines (text : List Char) : Prop :=
  text = [] ∨ text.getLast? = some '\n'

/-- Whether a text stays on one line, however lines are told apart. -/
def IsLine (text : List Char) : Prop :=
  ∀ c ∈ text, isLineBreak c = false

instance (text : List Char) : Decidable (IsLine text) :=
  List.decidableBAll _ text

@[simp] theorem ended_nil : ended [] = [] := rfl

@[simp] theorem ended_cons (line : List Char) (lines : List (List Char)) :
    ended (line :: lines) = line ++ '\n' :: ended lines := by
  simp [ended]

@[simp] theorem ended_append (first second : List (List Char)) :
    ended (first ++ second) = ended first ++ ended second :=
  List.flatMap_append

theorem hasWholeLines_ended (lines : List (List Char)) : HasWholeLines (ended lines) := by
  rcases List.eq_nil_or_concat lines with rfl | ⟨front, last, rfl⟩
  · exact .inl rfl
  · exact .inr (by simp)

namespace IsLine

theorem nil : IsLine [] := by
  intro c member
  cases member

theorem append {first second : List Char} (one : IsLine first) (two : IsLine second) :
    IsLine (first ++ second) := by
  intro c member
  rcases List.mem_append.mp member with here | there
  · exact one c here
  · exact two c there

theorem newline_not_mem {line : List Char} (isLine : IsLine line) : '\n' ∉ line := by
  intro member
  have unbroken := isLine '\n' member
  revert unbroken
  decide

end IsLine

/-- Text without line breaks goes on with the first line of what follows. -/
theorem splitLines_append {text : List Char} (isLine : IsLine text) {rest line : List Char}
    {lines : List (List Char)} (cut : splitLines rest = line :: lines) :
    splitLines (text ++ rest) = (text ++ line) :: lines := by
  induction text with
  | nil => exact cut
  | cons c text ih =>
      obtain ⟨unbroken, others⟩ := List.forall_mem_cons.mp isLine
      have other : c ≠ '\r' := by
        rintro rfl
        cases unbroken
      rw [List.cons_append, splitLines.eq_3 _ _ fun _ same => absurd same other, ih others]
      simp [unbroken]

theorem splitLines_line {line : List Char} (isLine : IsLine line) (rest : List Char) :
    splitLines (line ++ '\n' :: rest) = line :: splitLines rest := by
  rw [splitLines_append isLine (show splitLines ('\n' :: rest) = [] :: splitLines rest from rfl),
    List.append_nil]

/-- Whole lines are cut into themselves. -/
theorem splitLines_ended {lines : List (List Char)} (areLines : ∀ line ∈ lines, IsLine line) :
    splitLines (ended lines) = lines := by
  induction lines with
  | nil => rfl
  | cons line lines ih =>
      obtain ⟨isLine, others⟩ := List.forall_mem_cons.mp areLines
      rw [ended_cons, splitLines_line isLine, ih others]

/-- A text begins with its first line. -/
theorem splitLines_first {text line : List Char} {lines : List (List Char)}
    (cut : splitLines text = line :: lines) : line <+: text := by
  induction text generalizing line lines with
  | nil => cases cut
  | cons c text ih =>
      unfold splitLines at cut
      split at cut
      · rename_i same
        cases same
      · cases cut
        exact List.nil_prefix
      · rename_i same
        cases same
        split at cut
        · cases cut
          exact List.nil_prefix
        split at cut
        · cases cut
          exact List.prefix_append [c] text
        · rename_i first others later
          cases cut
          exact List.cons_prefix_cons.mpr ⟨rfl, ih later⟩

/-- A line of a text stands in it and holds no line break. -/
theorem mem_splitLines {text line : List Char} (member : line ∈ splitLines text) :
    line <:+: text ∧ IsLine line := by
  suffices all : ∀ line ∈ splitLines text, line <:+: text ∧ IsLine line from all line member
  clear member line
  have longer {line rest : List Char} (c : Char) (stands : line <:+: rest) : line <:+: c :: rest :=
    stands.trans (List.suffix_cons c rest).isInfix
  fun_induction splitLines text with
  | case1 => exact List.forall_mem_nil _
  | case2 rest ih =>
      refine List.forall_mem_cons.mpr ⟨⟨List.nil_infix, .nil⟩, fun line member => ?_⟩
      exact ⟨longer '\r' (longer '\n' (ih line member).1), (ih line member).2⟩
  | case3 c rest _ ends ih =>
      refine List.forall_mem_cons.mpr ⟨⟨List.nil_infix, .nil⟩, fun line member => ?_⟩
      exact ⟨longer c (ih line member).1, (ih line member).2⟩
  | case4 c rest _ goesOn last ih =>
      rw [List.forall_mem_singleton]
      refine ⟨(List.prefix_append [c] rest).isInfix, ?_⟩
      simpa [IsLine] using goesOn
  | case5 c rest _ goesOn line lines cut ih =>
      rw [cut] at ih
      obtain ⟨⟨_, isLine⟩, others⟩ := List.forall_mem_cons.mp ih
      refine List.forall_mem_cons.mpr ⟨⟨?_, ?_⟩, fun other member => ?_⟩
      · exact (List.cons_prefix_cons.mpr ⟨rfl, splitLines_first cut⟩).isInfix
      · simpa [IsLine, goesOn] using isLine
      · exact ⟨longer c (others other member).1, (others other member).2⟩

theorem toList_joinLines_append (lines : List String) (some_lines : lines ≠ []) :
    (joinLines lines).toList ++ ['\n'] = ended (lines.map String.toList) := by
  unfold joinLines
  induction lines with
  | nil => exact absurd rfl some_lines
  | cons line lines ih =>
      cases lines with
      | nil => simp [String.intercalate_singleton]
      | cons next lines =>
          have rest := ih (by simp)
          rw [String.intercalate_cons_cons]
          simp only [String.toList_append, List.append_assoc, rest]
          simp

theorem not_mem_ended {c : Char} (other : c ≠ '\n') {lines : List (List Char)}
    (absent : ∀ line ∈ lines, c ∉ line) : c ∉ ended lines := by
  intro member
  obtain ⟨line, among, inside⟩ := List.mem_flatMap.mp member
  rcases List.mem_append.mp inside with here | last
  · exact absent line among here
  · exact other (List.mem_singleton.mp last)

theorem not_mem_joinLines {c : Char} (other : c ≠ '\n') {lines : List String}
    (some_lines : lines ≠ []) (absent : ∀ line ∈ lines, c ∉ line.toList) :
    c ∉ (joinLines lines).toList := by
  have whole := toList_joinLines_append lines some_lines
  intro member
  refine not_mem_ended other (List.forall_mem_map.mpr absent) ?_
  rw [← whole]
  exact List.mem_append_left _ member

/-! ### Blanks at the ends -/

theorem dropBlank_of_blank {c : Char} (blank : isBlank c = true) (text : List Char) :
    dropBlank (c :: text) = dropBlank text := by
  simp [dropBlank, trimStartOf, blank]

theorem dropBlank_of_not_blank {c : Char} (visible : isBlank c = false) (text : List Char) :
    dropBlank (c :: text) = c :: text := by
  simp [dropBlank, trimStartOf, visible]

theorem dropBlank_suffix (text : List Char) : dropBlank text <:+ text :=
  List.dropWhile_suffix isBlank

theorem trimEnd_isPrefix (text : List Char) : trimEnd text <+: text := by
  have last := List.reverse_prefix.mpr (List.dropWhile_suffix isBlank (l := text.reverse))
  rwa [List.reverse_reverse] at last

theorem trim_isInfix (text : List Char) : trim text <:+: text :=
  (trimEnd_isPrefix (dropBlank text)).isInfix.trans (dropBlank_suffix text).isInfix

/-- After leading blanks are dropped a text begins with a character that is not blank. -/
theorem visible_of_dropBlank {c : Char} {text rest : List Char} (same : dropBlank text = c :: rest) :
    isBlank c = false := by
  have first := List.head?_dropWhile_not isBlank text
  rw [show text.dropWhile isBlank = c :: rest from same] at first
  exact first

theorem visible_of_trim {c : Char} {text rest : List Char} (same : trim text = c :: rest) :
    isBlank c = false := by
  obtain ⟨after, whole⟩ := trimEnd_isPrefix (dropBlank text)
  rw [show trimEnd (dropBlank text) = c :: rest from same, List.cons_append] at whole
  exact visible_of_dropBlank whole.symm

theorem dropBlank_append_of_blank {text : List Char} (blank : dropBlank text = [])
    (rest : List Char) : dropBlank (text ++ rest) = dropBlank rest := by
  unfold dropBlank trimStartOf at *
  rw [List.dropWhile_append, blank]
  rfl

theorem dropBlank_append_of_visible {text more : List Char} {c : Char}
    (visible : dropBlank text = c :: more) (rest : List Char) :
    dropBlank (text ++ rest) = c :: more ++ rest := by
  unfold dropBlank trimStartOf at *
  rw [List.dropWhile_append, visible]
  rfl

/-- Blanks are dropped only in front of a character that is not blank. -/
theorem dropBlank_before {c : Char} (visible : isBlank c = false) (text rest : List Char) :
    dropBlank (text ++ c :: rest) = dropBlank text ++ c :: rest := by
  cases start : dropBlank text with
  | nil => rw [dropBlank_append_of_blank start, dropBlank_of_not_blank visible, List.nil_append]
  | cons d more => exact dropBlank_append_of_visible start _

theorem dropBlank_append {lead : List Char} (blank : ∀ c ∈ lead, isBlank c = true)
    (text : List Char) : dropBlank (lead ++ text) = dropBlank text := by
  induction lead with
  | nil => rfl
  | cons c lead ih =>
      obtain ⟨first, rest⟩ := List.forall_mem_cons.mp blank
      exact (dropBlank_of_blank first _).trans (ih rest)

/-- Blanks before a text do not count once it is trimmed. -/
theorem trim_append {lead : List Char} (blank : ∀ c ∈ lead, isBlank c = true)
    (text : List Char) : trim (lead ++ text) = trim text :=
  congrArg (trimEndOf isBlank) (dropBlank_append blank text)

theorem trimEnd_append {tail : List Char} (blank : ∀ c ∈ tail, isBlank c = true)
    (text : List Char) : trimEnd (text ++ tail) = trimEnd text := by
  have reversed : ∀ c ∈ tail.reverse, isBlank c = true := by simpa using blank
  have same := dropBlank_append reversed text.reverse
  unfold dropBlank trimStartOf at same
  unfold trimEnd trimEndOf
  rw [List.reverse_append, same]

theorem trimEndOf_append_kept {drop : Char → Bool} {c : Char} (kept : drop c = false)
    (text rest : List Char) :
    trimEndOf drop (text ++ c :: rest) = text ++ c :: trimEndOf drop rest := by
  unfold trimEndOf
  rw [List.reverse_append, List.reverse_cons, List.append_assoc, List.dropWhile_append]
  cases rest.reverse.dropWhile drop with
  | nil => simp [kept]
  | cons d tail => simp

/-- A text is its end trimmed and characters that are dropped. -/
theorem exists_trimEndOf (drop : Char → Bool) (text : List Char) :
    ∃ tail, (∀ c ∈ tail, drop c = true) ∧ text = trimEndOf drop text ++ tail := by
  refine ⟨(text.reverse.takeWhile drop).reverse, ?_, ?_⟩
  · intro c member
    exact List.all_eq_true.mp List.all_takeWhile c (List.mem_reverse.mp member)
  · unfold trimEndOf
    rw [← List.reverse_append, List.takeWhile_append_dropWhile, List.reverse_reverse]

/-- A text is its end trimmed and blanks. -/
theorem exists_trimEnd (text : List Char) :
    ∃ tail, (∀ c ∈ tail, isBlank c = true) ∧ text = trimEnd text ++ tail :=
  exists_trimEndOf isBlank text

/-- A text that does not begin with a blank is trimmed once its end is. -/
theorem trim_eq_trimEnd {text : List Char} (begins : dropBlank text = text) :
    trim text = trimEnd text :=
  congrArg trimEnd begins

/-- A text between characters that are not blank is trimmed. -/
theorem trim_of_ends {c d : Char} {text rest front : List Char} (first : text = c :: rest)
    (last : text = front ++ [d]) (begins : isBlank c = false) (ends : isBlank d = false) :
    trim text = text := by
  have same : trim text = trimEnd text := by
    rw [first]
    exact trim_eq_trimEnd (dropBlank_of_not_blank begins rest)
  rw [same, last]
  simp [trimEnd, trimEndOf, ends]

theorem trim_eq_nil_iff {text : List Char} : trim text = [] ↔ ∀ c ∈ text, isBlank c = true := by
  constructor
  · intro none c member
    obtain ⟨tail, blank, whole⟩ := exists_trimEnd (dropBlank text)
    rw [show trimEnd (dropBlank text) = [] from none, List.nil_append] at whole
    rw [← List.takeWhile_append_dropWhile (p := isBlank) (l := text), List.mem_append] at member
    rcases member with first | last
    · exact List.all_eq_true.mp List.all_takeWhile c first
    · exact blank c (whole ▸ last)
  · intro blank
    have whole := trim_append blank []
    rwa [List.append_nil] at whole

theorem trimEnd_trimEnd (text : List Char) : trimEnd (trimEnd text) = trimEnd text := by
  obtain ⟨tail, blank, whole⟩ := exists_trimEnd text
  calc trimEnd (trimEnd text) = trimEnd (trimEnd text ++ tail) := (trimEnd_append blank _).symm
    _ = trimEnd text := by rw [← whole]

theorem trim_trim (text : List Char) : trim (trim text) = trim text := by
  have begins : dropBlank (trim text) = trim text := by
    cases same : trim text with
    | nil => rfl
    | cons c rest => exact dropBlank_of_not_blank (visible_of_trim same) rest
  rw [trim_eq_trimEnd begins]
  exact trimEnd_trimEnd (dropBlank text)

/-! ### Values -/

/-- Whether a text is a value that may stand on a line: it is not empty, and neither begins nor
ends with a blank. -/
structure IsValue (text : List Char) : Prop where
  isLine : IsLine text
  nonempty : text ≠ []
  trimmed : trim text = text

namespace IsValue

/-- A text between characters that are not blank is a value. -/
theorem of_ends {c d : Char} {text rest front : List Char} (isLine : IsLine text)
    (first : text = c :: rest) (last : text = front ++ [d]) (begins : isBlank c = false)
    (ends : isBlank d = false) : IsValue text := by
  exact ⟨isLine, by simp [first], trim_of_ends first last begins ends⟩

end IsValue

/-- A line is cut off where the text goes on with a line feed or not at all. -/
theorem upToNewline_ended {line rest : List Char} (absent : '\n' ∉ line)
    (ends : ∀ c, rest.head? = some c → c = '\n') : upToNewline (line ++ rest) = (line, rest) := by
  have before : ∀ c ∈ line, (c != '\n') = true := by
    intro c member
    simp only [bne_iff_ne, ne_eq]
    rintro rfl
    exact absent member
  have stops : rest.takeWhile (· != '\n') = [] ∧ rest.dropWhile (· != '\n') = rest := by
    cases rest with
    | nil => exact ⟨rfl, rfl⟩
    | cons c rest =>
        obtain rfl := ends c rfl
        exact ⟨rfl, rfl⟩
  unfold upToNewline
  rw [List.takeWhile_append_of_pos before, List.dropWhile_append_of_pos before, stops.1, stops.2,
    List.append_nil]

/-- What is not blank on a line is the value, with blanks before the line or without, where the text
goes on with a line feed or not at all. -/
theorem lineRemainder?_ended {blanks line rest : List Char} (blank : ∀ c ∈ blanks, isBlank c = true)
    (unbroken : '\n' ∉ line) (visible : trim line ≠ [])
    (ends : ∀ c, rest.head? = some c → c = '\n') :
    lineRemainder? (blanks ++ line ++ rest) = some (trim line, rest) := by
  cases begins : dropBlank line with
  | nil => exact absurd (congrArg trimEnd begins) visible
  | cons c more =>
      have dropped : dropBlank (blanks ++ line ++ rest) = c :: more ++ rest := by
        rw [List.append_assoc, dropBlank_append blank, dropBlank_append_of_visible begins]
      have within : '\n' ∉ c :: more := fun member =>
        unbroken ((dropBlank_suffix line).mem (begins ▸ member))
      have cut : trimEnd (c :: more) = trim line := congrArg trimEnd begins.symm
      unfold lineRemainder?
      rw [dropped]
      dsimp only [List.cons_append]
      rw [← List.cons_append, upToNewline_ended within ends, cut]

theorem lineRemainder?_line {blanks line : List Char} (blank : ∀ c ∈ blanks, isBlank c = true)
    (unbroken : '\n' ∉ line) (visible : trim line ≠ []) (rest : List Char) :
    lineRemainder? (blanks ++ line ++ '\n' :: rest) = some (trim line, '\n' :: rest) :=
  lineRemainder?_ended blank unbroken visible fun _ first => (Option.some.inj first).symm

/-- Where only blanks are left, one of them is the value. -/
theorem lineRemainder?_blank {text : List Char} (blank : ∀ c ∈ text, isBlank c = true)
    (some_other : ∃ c ∈ text, c ≠ '\n') :
    ∃ c, isBlank c = true ∧ lineRemainder? text = some ([c], []) := by
  have dropped : dropBlank text = [] := by
    have whole := dropBlank_append blank []
    rwa [List.append_nil] at whole
  unfold lineRemainder? lastOffNewline?
  rw [dropped]
  cases last : text.reverse.find? (· != '\n') with
  | none =>
      obtain ⟨c, member, other⟩ := some_other
      have same := List.find?_eq_none.mp last c (List.mem_reverse.mpr member)
      simp [other] at same
  | some c =>
      exact ⟨c, blank c (List.mem_reverse.mp (List.mem_of_find?_eq_some last)), rfl⟩

/-! ### Headings -/

theorem sectionsFrom_of_heading {level : HeadingLevel} {text title rest : List Char}
    (found : heading? level text = some (title, rest)) :
    sectionsFrom level true text =
      ⟨[], (title, (sectionsFrom level false rest).lead) ::
        (sectionsFrom level false rest).parts⟩ := by
  rw [sectionsFrom]
  split
  · rename_i other same
    rw [if_pos rfl, found] at same
    cases same
    rfl
  · rename_i none_found
    rw [if_pos rfl, found] at none_found
    cases none_found

theorem sectionsFrom_of_plain {level : HeadingLevel} {c : Char} {rest : List Char}
    (plain : heading? level (c :: rest) = none) :
    sectionsFrom level true (c :: rest) =
      ⟨c :: (sectionsFrom level (c == '\n') rest).lead,
        (sectionsFrom level (c == '\n') rest).parts⟩ := by
  rw [sectionsFrom]
  split
  · rename_i found
    rw [if_pos rfl, plain] at found
    cases found
  · rfl

theorem sectionsFrom_within (level : HeadingLevel) (c : Char) (rest : List Char) :
    sectionsFrom level false (c :: rest) =
      ⟨c :: (sectionsFrom level (c == '\n') rest).lead,
        (sectionsFrom level (c == '\n') rest).parts⟩ := by
  rw [sectionsFrom]
  split
  · rename_i found
    cases found
  · rfl

/-- Within a line no heading begins. -/
theorem sectionsFrom_line (level : HeadingLevel) {line : List Char} (absent : '\n' ∉ line)
    (rest : List Char) :
    sectionsFrom level false (line ++ '\n' :: rest) =
      ⟨line ++ '\n' :: (sectionsFrom level true rest).lead,
        (sectionsFrom level true rest).parts⟩ := by
  induction line with
  | nil => exact sectionsFrom_within level '\n' rest
  | cons c line ih =>
      have other : (c == '\n') = false := by
        simp only [beq_eq_false_iff_ne, ne_eq]
        rintro rfl
        exact absent List.mem_cons_self
      rw [List.cons_append, sectionsFrom_within, other,
        ih fun member => absent (List.mem_cons_of_mem c member)]
      rfl

/-- A line that is no heading stands in the text before the next heading. -/
theorem sectionsFrom_plain (level : HeadingLevel) {line : List Char} (absent : '\n' ∉ line)
    {rest : List Char} (plain : heading? level (line ++ '\n' :: rest) = none) :
    sectionsFrom level true (line ++ '\n' :: rest) =
      ⟨line ++ '\n' :: (sectionsFrom level true rest).lead,
        (sectionsFrom level true rest).parts⟩ := by
  cases line with
  | nil => exact sectionsFrom_of_plain plain
  | cons c line =>
      have other : (c == '\n') = false := by
        simp only [beq_eq_false_iff_ne, ne_eq]
        rintro rfl
        exact absent List.mem_cons_self
      rw [List.cons_append] at plain ⊢
      rw [sectionsFrom_of_plain plain, other,
        sectionsFrom_line level fun member => absent (List.mem_cons_of_mem c member)]
      rfl

/-- Whether a line is no heading of a level, whatever follows it. -/
def Unheaded (level : HeadingLevel) (line : List Char) : Prop :=
  ∀ rest, heading? level (line ++ '\n' :: rest) = none

/-- The number signs and the title of a heading. -/
def headed (signs : Nat) (title : List Char) : List Char :=
  List.replicate signs '#' ++ ' ' :: title

theorem isLine_headed {title : List Char} (isLine : IsLine title) (signs : Nat) :
    IsLine (headed signs title) := by
  intro c member
  rcases List.mem_append.mp member with sign | after
  · rw [(List.mem_replicate.mp sign).2]
    decide
  · rcases List.mem_cons.mp after with rfl | inside
    · decide
    · exact isLine c inside

theorem heading?_headed {signs : Nat} {title : List Char} (isValue : IsValue title)
    (rest : List Char) :
    heading? (.exactly signs) (headed signs title ++ '\n' :: rest) =
      some (title, '\n' :: rest) := by
  have signed : dropNumberSigns? (.exactly signs) (headed signs title ++ '\n' :: rest) =
      some (' ' :: (title ++ '\n' :: rest)) := by
    simp [dropNumberSigns?, headed]
  have visible : trim title ≠ [] := isValue.trimmed.symm ▸ isValue.nonempty
  have valued := lineRemainder?_line (List.forall_mem_nil _) isValue.isLine.newline_not_mem visible
    rest
  unfold heading?
  simp only [signed, Option.bind_eq_bind, Option.bind_some]
  rw [if_pos (by decide)]
  rwa [isValue.trimmed] at valued

theorem heading?_of_unsigned {c : Char} (other : c ≠ '#') (signs : Nat) (rest : List Char) :
    heading? (.exactly (signs + 1)) (c :: rest) = none := by
  have unsigned : dropNumberSigns? (.exactly (signs + 1)) (c :: rest) = none := by
    simp [dropNumberSigns?, List.replicate_succ, other]
  simp [heading?, unsigned]

theorem unheaded_nil (signs : Nat) : Unheaded (.exactly (signs + 1)) [] :=
  heading?_of_unsigned (by decide) signs

theorem unheaded_cons {c : Char} (other : c ≠ '#') (signs : Nat) (line : List Char) :
    Unheaded (.exactly (signs + 1)) (c :: line) :=
  fun rest => heading?_of_unsigned other signs (line ++ '\n' :: rest)

/-- A heading with one number sign more is none of the level. -/
theorem unheaded_deeper (signs : Nat) (title : List Char) :
    Unheaded (.exactly signs) (headed (signs + 1) title) := by
  intro rest
  generalize '\n' :: rest = rest
  have signed : dropNumberSigns? (.exactly signs) (headed (signs + 1) title ++ rest) =
      some ('#' :: ' ' :: (title ++ rest)) := by
    simp [dropNumberSigns?, headed, List.replicate_succ']
  have visible : isBlank '#' = false := by decide
  simp [heading?, signed, visible]

theorem sectionsFrom_nil {level : HeadingLevel} (plain : heading? level [] = none) :
    sectionsFrom level true [] = ⟨[], []⟩ := by
  rw [sectionsFrom]
  split
  · rename_i found
    rw [if_pos rfl, plain] at found
    cases found
  · rfl

/-- The text under a heading begins with the line feed after its title. -/
theorem sectionsFrom_headed {signs : Nat} {title : List Char} (isValue : IsValue title)
    (rest : List Char) :
    sectionsFrom (.exactly signs) true (headed signs title ++ '\n' :: rest) =
      ⟨[], (title, '\n' :: (sectionsFrom (.exactly signs) true rest).lead) ::
        (sectionsFrom (.exactly signs) true rest).parts⟩ := by
  rw [sectionsFrom_of_heading (heading?_headed isValue rest), sectionsFrom_within]
  rfl

/-- Lines without headings stand in the text before the next heading. -/
theorem sectionsFrom_ended {level : HeadingLevel} {lines : List (List Char)}
    (unbroken : ∀ line ∈ lines, '\n' ∉ line)
    (plain : ∀ line ∈ lines, Unheaded level line) (rest : List Char) :
    sectionsFrom level true (ended lines ++ rest) =
      ⟨ended lines ++ (sectionsFrom level true rest).lead,
        (sectionsFrom level true rest).parts⟩ := by
  induction lines with
  | nil => rfl
  | cons line lines ih =>
      obtain ⟨here, otherLines⟩ := List.forall_mem_cons.mp unbroken
      obtain ⟨unheaded, others⟩ := List.forall_mem_cons.mp plain
      rw [ended_cons, List.append_assoc, List.cons_append,
        sectionsFrom_plain level here (unheaded _), ih otherLines others]
      simp

end PlanCycle.Text
