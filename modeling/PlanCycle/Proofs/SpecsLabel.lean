/-
Module: PlanCycle.Proofs.SpecsLabel
Purpose: How the label of the line that names specs may be written, and that a value is read behind
  the first such label.
Main exports:
  IsSpecsLabel, NamesSpecs, LeavesLabelOpen, labelledValue?_label, labelledValue?_eq_some,
  specsValue?_line
-/
import Mathlib.Data.List.Basic
import PlanCycle.Change.AffectedSpecs
import PlanCycle.Proofs.Lines

namespace PlanCycle

open Text

/-!
The label may stand behind the mark of a list item, and in stars.  Blanks may stand between its
parts, and line ends are blanks: a label may go on from one line to the next, and so may the gap
between a label and its value.
-/

/-- Whether a text is the label of the specs that a proposal names. -/
inductive IsSpecsLabel : List Char → Prop
  | mk {lead bullet indent opening words closing gap trailing : List Char}
      (lead_blank : ∀ c ∈ lead, isBlank c = true) (item : bullet ∈ [[], ['-'], ['*']])
      (indent_blank : ∀ c ∈ indent, isBlank c = true) (opening_stars : ∀ c ∈ opening, c = '*')
      (named : words.map foldLetter = "affected specs".toList)
      (closing_stars : ∀ c ∈ closing, c = '*') (gap_blank : ∀ c ∈ gap, isBlank c = true)
      (trailing_stars : ∀ c ∈ trailing, c = '*') :
      IsSpecsLabel (lead ++ (bullet ++ (indent ++ (opening ++ (words ++ (closing ++
        (gap ++ ':' :: trailing)))))))

/-- Whether a line begins behind a text. -/
def endsLine (text : List Char) : Bool :=
  text.getLast?.all (· == '\n')

/-- Whether a text holds a label at the beginning of a line, and a value behind it. -/
def NamesSpecs (text : List Char) : Prop :=
  ∃ before label gap c after, text = before ++ (label ++ (gap ++ c :: after)) ∧
    endsLine before = true ∧ IsSpecsLabel label ∧ (∀ c ∈ gap, isBlank c = true) ∧ c ≠ '\n'

/-- Whether a text ends with a label at the beginning of a line that has no value yet. -/
def LeavesLabelOpen (text : List Char) : Prop :=
  ∃ before label gap, text = before ++ (label ++ gap) ∧
    endsLine before = true ∧ IsSpecsLabel label ∧ ∀ c ∈ gap, isBlank c = true

/-! ### Written labels -/

/-- A label takes fifteen characters. -/
theorem length_label {label : List Char} (isLabel : IsSpecsLabel label) : 15 ≤ label.length := by
  obtain ⟨-, -, -, -, named, -, -, -⟩ := isLabel
  have letters := congrArg List.length named
  rw [List.length_map] at letters
  have count : "affected specs".toList.length = 14 := by decide
  simp only [List.length_append, List.length_cons]
  omega

/-- A label may be written without stars. -/
theorem isSpecsLabel_plain (bullet indent : List Char) (item : bullet ∈ [[], ['-'], ['*']])
    (blank : ∀ c ∈ indent, isBlank c = true) :
    IsSpecsLabel (bullet ++ (indent ++ "Affected specs:".toList)) := by
  have ended : "Affected specs:".toList = "Affected specs".toList ++ [':'] := by decide
  have named : "Affected specs".toList.map foldLetter = "affected specs".toList := by decide
  have plain : IsSpecsLabel ([] ++ (bullet ++ (indent ++ ([] ++ ("Affected specs".toList ++
      ([] ++ ([] ++ [':']))))))) :=
    .mk nofun item blank nofun named nofun nofun nofun
  rwa [ended]

/-! ### Stars, blanks and words -/

theorem dropStars_append {stars rest : List Char} (all : ∀ c ∈ stars, c = '*')
    (other : rest.head? ≠ some '*') : dropStars (stars ++ rest) = rest := by
  unfold dropStars
  rw [List.dropWhile_append_of_pos fun c member => beq_iff_eq.mpr (all c member)]
  cases rest with
  | nil => rfl
  | cons c rest => exact List.dropWhile_cons_of_neg fun same => other (by simpa using same)

/-- Behind blanks no star comes first. -/
theorem head?_ne_star {gap rest : List Char} {c : Char} (blank : ∀ d ∈ gap, isBlank d = true)
    (other : c ≠ '*') : (gap ++ c :: rest).head? ≠ some '*' := by
  cases gap with
  | nil => simpa using other
  | cons d gap =>
      have here := blank d List.mem_cons_self
      simp only [List.cons_append, List.head?_cons, Option.some.injEq, ne_eq]
      rintro rfl
      exact absurd here (by decide)

theorem exists_dropStars (text : List Char) :
    ∃ stars, (∀ c ∈ stars, c = '*') ∧ text = stars ++ dropStars text := by
  refine ⟨text.takeWhile (· == '*'), fun c member => ?_, List.takeWhile_append_dropWhile.symm⟩
  exact beq_iff_eq.mp (List.all_eq_true.mp List.all_takeWhile c member)

theorem exists_dropBlank (text : List Char) :
    ∃ lead, (∀ c ∈ lead, isBlank c = true) ∧ text = lead ++ dropBlank text :=
  ⟨text.takeWhile isBlank, fun c member => List.all_eq_true.mp List.all_takeWhile c member,
    List.takeWhile_append_dropWhile.symm⟩

theorem exists_dropBullet (text : List Char) :
    ∃ bullet, bullet ∈ [[], ['-'], ['*']] ∧ text = bullet ++ dropBullet text := by
  unfold dropBullet
  split
  · exact ⟨['-'], by decide, rfl⟩
  · exact ⟨['*'], by decide, rfl⟩
  · exact ⟨[], by decide, rfl⟩

namespace Text

/-- A word is read where it stands in some mix of letter cases. -/
theorem dropWord?_eq_some_iff {word text rest : List Char} :
    dropWord? word text = some rest ↔ ∃ own, own.map foldLetter = word ∧ text = own ++ rest := by
  induction word generalizing text with
  | nil => simp [dropWord?, eq_comm]
  | cons letter word ih =>
      cases text with
      | nil => simp [dropWord?]
      | cons c text =>
          unfold dropWord? matchesLetter
          constructor
          · intro found
            split at found
            · rename_i same
              obtain ⟨own, folded, rfl⟩ := ih.mp found
              exact ⟨c :: own, by simp [folded, beq_iff_eq.mp same], rfl⟩
            · cases found
          · rintro ⟨own, folded, whole⟩
            cases own with
            | nil => cases folded
            | cons d own =>
                obtain ⟨rfl, rfl⟩ := List.cons.inj whole
                obtain ⟨same, others⟩ := List.cons.inj folded
                rw [if_pos (beq_iff_eq.mpr same)]
                exact ih.mpr ⟨own, others, rfl⟩

/-- What holds of all ASCII characters can be checked code by code. -/
theorem exists_code {c : Char} (ascii : c.toNat < 128) : ∃ n < 128, c = Char.ofNat n :=
  ⟨c.toNat, ascii, (Char.ofNat_toNat c).symm⟩

/-- Two characters are folded to the first letter of the label. -/
theorem foldLetter_eq_a {c : Char} (folded : foldLetter c = 'a') : c = 'a' ∨ c = 'A' := by
  have codes : ∀ n < 128, (Char.ofNat n).toLower = 'a' →
      Char.ofNat n = 'a' ∨ Char.ofNat n = 'A' := by
    decide
  unfold foldLetter at folded
  split at folded
  · rename_i ascii
    obtain ⟨n, small, rfl⟩ := exists_code ascii
    exact codes n small folded
  · split at folded
    · exact absurd folded (by decide)
    · split at folded
      · exact absurd folded (by decide)
      · split at folded
        · exact absurd folded (by decide)
        · exact .inl folded

end Text

/-! ### Where a label is read -/

/-- What stands before the words of a label is passed over. -/
theorem label_starts {lead bullet indent opening words : List Char}
    (lead_blank : ∀ c ∈ lead, isBlank c = true) (item : bullet ∈ [[], ['-'], ['*']])
    (indent_blank : ∀ c ∈ indent, isBlank c = true) (opening_stars : ∀ c ∈ opening, c = '*')
    (named : words.map foldLetter = "affected specs".toList) (more : List Char) :
    dropStars (dropBlank (dropBullet (dropBlank
      (lead ++ (bullet ++ (indent ++ (opening ++ (words ++ more)))))))) = words ++ more := by
  obtain ⟨w, ws, rfl⟩ : ∃ w ws, words = w :: ws := by
    cases words with
    | nil => cases named
    | cons w ws => exact ⟨w, ws, rfl⟩
  have first : w = 'a' ∨ w = 'A' := foldLetter_eq_a (List.cons.inj named).1
  have unstarred : (w :: ws ++ more).head? ≠ some '*' := by
    rcases first with rfl | rfl <;> simp
  have visible {stars : List Char} (all : ∀ c ∈ stars, c = '*') :
      dropBlank (stars ++ (w :: ws ++ more)) = stars ++ (w :: ws ++ more) := by
    cases stars with
    | nil => rcases first with rfl | rfl <;> exact dropBlank_of_not_blank (by decide) _
    | cons c stars =>
        rw [all c List.mem_cons_self]
        exact dropBlank_of_not_blank (by decide) _
  have passed {stars : List Char} (all : ∀ c ∈ stars, c = '*') :
      dropStars (dropBlank (stars ++ (w :: ws ++ more))) = w :: ws ++ more := by
    rw [visible all, dropStars_append all unstarred]
  rw [dropBlank_append lead_blank]
  simp only [List.mem_cons, List.not_mem_nil, or_false] at item
  rcases item with rfl | rfl | rfl
  · -- Without the mark of an item, the first star is taken for one.
    rw [List.nil_append, dropBlank_append indent_blank, visible opening_stars]
    cases opening with
    | nil =>
        have undashed : dropBullet (w :: ws ++ more) = w :: ws ++ more := by
          rcases first with rfl | rfl <;> rfl
        rw [List.nil_append, undashed]
        exact passed (List.forall_mem_nil _)
    | cons c opening =>
        obtain ⟨rfl, stars⟩ := List.forall_mem_cons.mp opening_stars
        exact passed stars
  · rw [List.singleton_append, dropBlank_of_not_blank (by decide), dropBullet,
      dropBlank_append indent_blank, passed opening_stars]
  · rw [List.singleton_append, dropBlank_of_not_blank (by decide), dropBullet,
      dropBlank_append indent_blank, passed opening_stars]

/-- Blanks before a label do not count. -/
theorem labelledValue?_blank {lead : List Char} (blank : ∀ c ∈ lead, isBlank c = true)
    (text : List Char) : labelledValue? (lead ++ text) = labelledValue? text := by
  unfold labelledValue?
  rw [dropBlank_append blank]

/-- Behind a label the value is read, from the next line if need be. -/
theorem labelledValue?_label {label rest : List Char} (isLabel : IsSpecsLabel label)
    (unstarred : rest.head? ≠ some '*') :
    labelledValue? (label ++ rest) = (lineRemainder? rest).map (·.1) := by
  obtain ⟨lead_blank, item, indent_blank, opening_stars, named, closing_stars, gap_blank,
    trailing_stars⟩ := isLabel
  rename_i lead bullet indent opening words closing gap trailing
  have start := label_starts lead_blank item indent_blank opening_stars named
    (closing ++ (gap ++ ':' :: (trailing ++ rest)))
  have word : dropWord? "affected specs".toList
      (words ++ (closing ++ (gap ++ ':' :: (trailing ++ rest)))) =
        some (closing ++ (gap ++ ':' :: (trailing ++ rest))) :=
    dropWord?_eq_some_iff.mpr ⟨words, named, rfl⟩
  have unstarred_gap : (gap ++ ':' :: (trailing ++ rest)).head? ≠ some '*' :=
    head?_ne_star gap_blank (by decide)
  have colon : dropBlank (dropStars (closing ++ (gap ++ ':' :: (trailing ++ rest)))) =
      ':' :: (trailing ++ rest) := by
    rw [dropStars_append closing_stars unstarred_gap, dropBlank_append gap_blank]
    exact dropBlank_of_not_blank (by decide) _
  simp only [List.append_assoc, List.cons_append]
  unfold labelledValue?
  rw [start]
  dsimp only
  rw [word, Option.bind_eq_bind, Option.bind_some, colon]
  exact congrArg (fun left => (lineRemainder? left).map (·.1))
    (dropStars_append trailing_stars unstarred)

/-- A value is only read behind a label. -/
theorem labelledValue?_eq_some {text value : List Char} (found : labelledValue? text = some value) :
    ∃ label rest, text = label ++ rest ∧ IsSpecsLabel label := by
  unfold labelledValue? at found
  simp only [Option.bind_eq_bind, Option.bind_eq_some_iff] at found
  obtain ⟨behind, word, found⟩ := found
  split at found
  · rename_i rest colon
    obtain ⟨lead, lead_blank, one⟩ := exists_dropBlank text
    obtain ⟨bullet, item, two⟩ := exists_dropBullet (dropBlank text)
    obtain ⟨indent, indent_blank, three⟩ := exists_dropBlank (dropBullet (dropBlank text))
    obtain ⟨opening, opening_stars, four⟩ :=
      exists_dropStars (dropBlank (dropBullet (dropBlank text)))
    obtain ⟨words, named, five⟩ := dropWord?_eq_some_iff.mp word
    obtain ⟨closing, closing_stars, six⟩ := exists_dropStars behind
    obtain ⟨gap, gap_blank, seven⟩ := exists_dropBlank (dropStars behind)
    rw [colon] at seven
    refine ⟨_, rest, ?_, .mk lead_blank item indent_blank opening_stars named closing_stars
      gap_blank (List.forall_mem_nil _)⟩
    calc text = lead ++ dropBlank text := one
      _ = lead ++ (bullet ++ (indent ++ (opening ++ (words ++ (closing ++ (gap ++
            ':' :: rest)))))) := by rw [← seven, ← six, ← five, ← four, ← three, ← two]
      _ = _ := by simp
  · cases found

theorem IsSpecsLabel.colon_mem {label : List Char} (isLabel : IsSpecsLabel label) :
    ':' ∈ label := by
  cases isLabel
  simp

/-- Before the dash of a label only blanks can stand. -/
theorem IsSpecsLabel.blank_before_dash {text more : List Char}
    (isLabel : IsSpecsLabel (text ++ '-' :: more)) : ∀ c ∈ text, isBlank c = true := by
  generalize whole : text ++ '-' :: more = label at isLabel
  obtain ⟨lead_blank, item, indent_blank, opening_stars, named, closing_stars, gap_blank,
    trailing_stars⟩ := isLabel
  rename_i lead bullet indent opening words closing gap trailing
  have undashed {part : List Char} (blank : ∀ c ∈ part, isBlank c = true) : '-' ∉ part :=
    fun member => absurd (blank '-' member) (by decide)
  have unstarred {part : List Char} (stars : ∀ c ∈ part, c = '*') : '-' ∉ part :=
    fun member => absurd (stars '-' member) (by decide)
  have unspelled : '-' ∉ words := by
    intro member
    have folded := List.mem_map_of_mem (f := foldLetter) member
    rw [named] at folded
    exact absurd folded (by decide)
  have behind : '-' ∉ indent ++ (opening ++ (words ++ (closing ++ (gap ++ ':' :: trailing)))) := by
    simp [undashed indent_blank, unstarred opening_stars, unspelled, unstarred closing_stars,
      undashed gap_blank, unstarred trailing_stars]
  have dashed : '-' ∈ bullet := by
    have member : '-' ∈ text ++ '-' :: more := by simp
    rw [whole, List.mem_append, List.mem_append] at member
    rcases member with before | within | after
    · exact absurd before (undashed lead_blank)
    · exact within
    · exact absurd after behind
  have bulleted : bullet = ['-'] := by
    simp only [List.mem_cons, List.not_mem_nil, or_false] at item
    rcases item with rfl | rfl | rfl
    · cases dashed
    · rfl
    · exact absurd dashed (by decide)
  subst bulleted
  rw [List.singleton_append, eq_comm,
    List.append_cons_inj_of_notMem (undashed lead_blank) behind] at whole
  rw [← whole.1]
  exact lead_blank

/-- A text is blank, or its first character that is not blank stands behind blanks. -/
theorem blank_or_visible (text : List Char) :
    (∀ c ∈ text, isBlank c = true) ∨ ∃ gap c after, text = gap ++ c :: after ∧
      (∀ c ∈ gap, isBlank c = true) ∧ isBlank c = false := by
  obtain ⟨gap, blank, whole⟩ := exists_dropBlank text
  cases start : dropBlank text with
  | nil =>
      rw [start, List.append_nil] at whole
      exact .inl (whole ▸ blank)
  | cons c after =>
      rw [start] at whole
      exact .inr ⟨gap, c, after, whole, blank, visible_of_dropBlank start⟩

/-- If a value is read from a text in which a dash follows, what stands before the dash is blank,
or it begins with a label. -/
theorem labelled_before_dash {text more value : List Char}
    (found : labelledValue? (text ++ '-' :: more) = some value) :
    (∀ c ∈ text, isBlank c = true) ∨ ∃ label rest, text = label ++ rest ∧ IsSpecsLabel label := by
  obtain ⟨label, rest, whole, isLabel⟩ := labelledValue?_eq_some found
  rcases List.append_eq_append_iff.mp whole with ⟨behind, rfl, dashed⟩ | ⟨before, rfl, -⟩
  · cases behind with
    | nil => exact .inr ⟨text ++ [], [], by simp, isLabel⟩
    | cons d behind =>
        obtain ⟨rfl, -⟩ := List.cons.inj dashed
        exact .inl isLabel.blank_before_dash
  · exact .inr ⟨label, before, rfl, isLabel⟩

/-! ### The first line with a label -/

theorem specsValueFrom?_of_some {text value : List Char}
    (found : labelledValue? text = some value) : specsValueFrom? true text = some value := by
  rw [specsValueFrom?.eq_def]
  simp only [found]

theorem specsValueFrom?_of_none {c : Char} {text : List Char}
    (none : labelledValue? (c :: text) = .none) :
    specsValueFrom? true (c :: text) = specsValueFrom? (c == '\n') text := by
  rw [specsValueFrom?.eq_def]
  simp only [none]

theorem specsValueFrom?_within (c : Char) (text : List Char) :
    specsValueFrom? false (c :: text) = specsValueFrom? (c == '\n') text := by
  rw [specsValueFrom?.eq_def]

theorem endsLine_concat (text : List Char) (c : Char) : endsLine (text ++ [c]) = (c == '\n') := by
  rw [endsLine, List.getLast?_concat, Option.all_some]

/-- The value that is read from one line is the value of the text if no line before gives another
one. -/
theorem specsValueFrom?_scan {text rest value before : List Char}
    (ends : endsLine (before ++ text) = true) (here : labelledValue? rest = some value)
    (others : ∀ passed left, text = passed ++ left → endsLine (before ++ passed) = true →
      ∀ other, labelledValue? (left ++ rest) = some other → other = value) :
    specsValueFrom? (endsLine before) (text ++ rest) = some value := by
  induction text generalizing before with
  | nil =>
      rw [List.append_nil] at ends
      rw [ends, List.nil_append]
      exact specsValueFrom?_of_some here
  | cons c text ih =>
      have later : specsValueFrom? (c == '\n') (text ++ rest) = some value := by
        rw [← endsLine_concat before c]
        refine ih (by rwa [List.append_assoc]) fun passed left whole line => ?_
        rw [List.append_assoc] at line
        exact others (c :: passed) left (by rw [whole]; rfl) line
      rw [List.cons_append]
      cases begins : endsLine before with
      | false => exact (specsValueFrom?_within c _).trans later
      | true =>
          cases found : labelledValue? (c :: (text ++ rest)) with
          | none => exact (specsValueFrom?_of_none found).trans later
          | some other =>
              have line : endsLine (before ++ []) = true := by rwa [List.append_nil]
              rw [← others [] (c :: text) rfl line other found]
              exact specsValueFrom?_of_some found

/-- The value of a line that begins with a dash is read if nothing before it names specs; but a
label that is left open before takes the line as its value. -/
theorem specsValue?_line {earlier rest value : List Char} (ends : endsLine earlier = true)
    (unnamed : ¬NamesSpecs earlier) (own : labelledValue? ('-' :: rest) = some value) :
    (¬LeavesLabelOpen earlier → specsValue? (earlier ++ '-' :: rest) = some value) ∧
      (LeavesLabelOpen earlier → specsValue? (earlier ++ '-' :: rest) =
        some (trimEnd (upToNewline ('-' :: rest)).1)) := by
  -- What a line start before the dash can be followed by.
  have cases_of {passed left other : List Char} (whole : earlier = passed ++ left)
      (line : endsLine passed = true) (found : labelledValue? (left ++ '-' :: rest) = some other) :
      (∀ c ∈ left, isBlank c = true) ∨ ∃ label gap, left = label ++ gap ∧ IsSpecsLabel label ∧
        ∀ c ∈ gap, isBlank c = true := by
    rcases labelled_before_dash found with blank | ⟨label, behind, rfl, isLabel⟩
    · exact .inl blank
    · rcases blank_or_visible behind with blank | ⟨gap, c, after, rfl, blank, visible⟩
      · exact .inr ⟨label, behind, rfl, isLabel, blank⟩
      · refine absurd ⟨passed, label, gap, c, after, whole, line, isLabel, blank, ?_⟩ unnamed
        rintro rfl
        exact absurd visible (by decide)
  -- An open label takes the line with the dash.
  have crossing {label gap : List Char} (isLabel : IsSpecsLabel label)
      (blank : ∀ c ∈ gap, isBlank c = true) : labelledValue? (label ++ (gap ++ '-' :: rest)) =
        some (trimEnd (upToNewline ('-' :: rest)).1) := by
    have unstarred : (gap ++ '-' :: rest).head? ≠ some '*' :=
      head?_ne_star blank (by decide)
    rw [labelledValue?_label isLabel unstarred, lineRemainder?, dropBlank_append blank,
      dropBlank_of_not_blank (by decide)]
    rfl
  constructor
  · intro closed
    have line : endsLine ([] ++ earlier) = true := ends
    refine specsValueFrom?_scan line own fun passed left whole line other found => ?_
    rcases cases_of whole line found with blank | ⟨label, gap, rfl, isLabel, gap_blank⟩
    · rw [labelledValue?_blank blank, own] at found
      exact (Option.some.inj found).symm
    · exact absurd ⟨passed, label, gap, whole, line, isLabel, gap_blank⟩ closed
  · rintro ⟨passed, label, gap, rfl, line, isLabel, blank⟩
    have begun : endsLine ([] ++ passed) = true := line
    rw [List.append_assoc]
    refine specsValueFrom?_scan begun ?_ fun before left whole start other found => ?_
    · rw [List.append_assoc]
      exact crossing isLabel blank
    · rw [← List.append_assoc] at found
      have within : passed ++ (label ++ gap) = before ++ (left ++ (label ++ gap)) := by
        rw [whole, List.append_assoc]
      rcases cases_of within start found with none | ⟨first, between, same, isFirst, empty⟩
      · have colon := none ':' (List.mem_append_right _ (List.mem_append_left _ isLabel.colon_mem))
        exact absurd colon (by decide)
      · rw [same, List.append_assoc, crossing isFirst empty] at found
        exact (Option.some.inj found).symm

end PlanCycle
