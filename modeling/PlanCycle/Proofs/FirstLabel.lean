/-
Module: PlanCycle.Proofs.FirstLabel
Purpose: Which text is read as the value of the label that names specs: behind the first label of a
  proposal the rest of the line or, where that is blank, the first line below that is not.
Main exports:
  HoldsLabel, visibleLine, labelledValue?_overlap, specsValue?_first, affectedSpecs_first,
  specs_follow_first_label
-/
import Mathlib.Data.Bool.AllAny
import Mathlib.Data.List.TakeWhile
import PlanCycle.Proofs.SpecsLabel

namespace PlanCycle

open Text

/-- Whether a label stands at the beginning of a line of a text. -/
def HoldsLabel (text : List Char) : Prop :=
  ∃ before label rest, text = before ++ (label ++ rest) ∧ endsLine before = true ∧
    IsSpecsLabel label

/-- Whether a text is cut at its first label: into what stands before it, the label with all of its
stars, the value on the rest of the line, and what follows the line. -/
structure IsCutAtLabel (text before label value after : List Char) : Prop where
  whole : text = before ++ (label ++ (value ++ after))
  ends : endsLine before = true
  first : ¬HoldsLabel before
  isLabel : IsSpecsLabel label
  unstarred : value.head? ≠ some '*'
  unbroken : '\n' ∉ value
  stops : ∀ c, after.head? = some c → c = '\n'

/-- The first line of a text that is not blank, from its first character that is not. -/
def visibleLine (text : List Char) : List Char :=
  (upToNewline (dropBlank text)).1

/-! ### Values of labels -/

/-- A label ends with its only colon and stars, which it may have more or less of. -/
theorem IsSpecsLabel.exists_colon {label : List Char} (isLabel : IsSpecsLabel label) :
    ∃ start stars, label = start ++ ':' :: stars ∧ ':' ∉ start ∧ (∀ c ∈ stars, c = '*') ∧
      ∀ more, (∀ c ∈ more, c = '*') → IsSpecsLabel (start ++ ':' :: more) := by
  obtain ⟨lead_blank, item, indent_blank, opening_stars, named, closing_stars, gap_blank,
    trailing_stars⟩ := isLabel
  rename_i lead bullet indent opening words closing gap trailing
  have uncolored {part : List Char} (blank : ∀ c ∈ part, isBlank c = true) : ':' ∉ part :=
    fun member => absurd (blank ':' member) (by decide)
  have unstarred {part : List Char} (stars : ∀ c ∈ part, c = '*') : ':' ∉ part :=
    fun member => absurd (stars ':' member) (by decide)
  have unmarked : ':' ∉ bullet := by
    simp only [List.mem_cons, List.not_mem_nil, or_false] at item
    rcases item with rfl | rfl | rfl <;> decide
  have unspelled : ':' ∉ words := by
    intro member
    have folded := List.mem_map_of_mem (f := foldLetter) member
    rw [named] at folded
    exact absurd folded (by decide)
  refine ⟨lead ++ (bullet ++ (indent ++ (opening ++ (words ++ (closing ++ gap))))), trailing,
    by simp, ?_, trailing_stars, fun more stars => ?_⟩
  · simp [uncolored lead_blank, unmarked, uncolored indent_blank, unstarred opening_stars,
      unspelled, unstarred closing_stars, uncolored gap_blank]
  · have longer := IsSpecsLabel.mk lead_blank item indent_blank opening_stars named closing_stars
      gap_blank stars
    simpa using longer

/-- What stands before the first of some characters is the same in equal texts. -/
theorem Text.eq_of_first {c : Char} {first second one two : List Char} (none : c ∉ first)
    (noOther : c ∉ second) (same : first ++ c :: one = second ++ c :: two) :
    first = second ∧ one = two := by
  rcases List.append_eq_append_iff.mp same with ⟨between, rfl, tail⟩ | ⟨between, rfl, tail⟩
  all_goals
    cases between with
    | nil => simpa [eq_comm] using tail
    | cons d between =>
        obtain ⟨rfl, -⟩ := List.cons.inj tail
        simp at none noOther

/-- A character that is in none of the second part of a text stands in the first one. -/
theorem Text.stands_in_first {c : Char} {text more front rest : List Char} (absent : c ∉ more)
    (whole : text ++ more = front ++ c :: rest) : ∃ between, text = front ++ c :: between := by
  rcases List.append_eq_append_iff.mp whole with ⟨between, -, tail⟩ | ⟨between, rfl, tail⟩
  · exact absurd (tail ▸ List.mem_append_right _ List.mem_cons_self) absent
  · cases between with
    | nil => exact absurd (show c ∈ [] ++ more from tail ▸ List.mem_cons_self) absent
    | cons d between =>
        obtain ⟨rfl, -⟩ := List.cons.inj tail
        exact ⟨between, rfl⟩

theorem head?_dropStars (text : List Char) : (dropStars text).head? ≠ some '*' := by
  intro first
  have stops := List.head?_dropWhile_not (· == '*') text
  unfold dropStars at first
  rw [first] at stops
  simp at stops

theorem dropStars_passed {stars : List Char} (all : ∀ c ∈ stars, c = '*') (rest : List Char) :
    dropStars (stars ++ rest) = dropStars rest :=
  List.dropWhile_append_of_pos fun c member => beq_iff_eq.mpr (all c member)

/-- Behind a label stars are passed over, and then the value is read. -/
theorem labelledValue?_behind {label : List Char} (isLabel : IsSpecsLabel label)
    (rest : List Char) :
    labelledValue? (label ++ rest) = (lineRemainder? (dropStars rest)).map (·.1) := by
  obtain ⟨start, stars, rfl, -, own, longer⟩ := isLabel.exists_colon
  obtain ⟨more, all, whole⟩ := exists_dropStars rest
  have starred : ∀ c ∈ stars ++ more, c = '*' := List.forall_mem_append.mpr ⟨own, all⟩
  have parts : start ++ ':' :: stars ++ rest =
      start ++ ':' :: (stars ++ more) ++ dropStars rest := by
    conv_lhs => rw [whole]
    simp
  rw [parts, labelledValue?_label (longer _ starred) (head?_dropStars rest)]

/-- What is read where a label is passed is read behind the label as well, if no label stands
before it. -/
theorem labelledValue?_overlap {before label rest value : List Char} (isLabel : IsSpecsLabel label)
    (none : ∀ other behind, before = other ++ behind → ¬IsSpecsLabel other)
    (found : labelledValue? (before ++ (label ++ rest)) = some value) :
    labelledValue? (label ++ rest) = some value := by
  obtain ⟨other, behind, whole, isOther⟩ := labelledValue?_eq_some found
  rw [whole, labelledValue?_behind isOther] at found
  rw [labelledValue?_behind isLabel]
  obtain ⟨start, stars, rfl, clean, own, -⟩ := isLabel.exists_colon
  obtain ⟨otherStart, otherStars, rfl, otherClean, otherOwn, shorter⟩ := isOther.exists_colon
  by_cases earlier : ':' ∈ before
  · -- Then the other label stands before this one.
    obtain ⟨first, last, rfl, firstClean⟩ := List.eq_append_cons_of_mem earlier
    have same : first ++ ':' :: (last ++ (start ++ ':' :: stars ++ rest)) =
        otherStart ++ ':' :: (otherStars ++ behind) := by simpa using whole
    obtain ⟨rfl, -⟩ := eq_of_first firstClean otherClean same
    exact absurd (shorter [] (List.forall_mem_nil _)) (none (first ++ [':']) last (by simp))
  · -- Both labels have the same colon.
    have same : (before ++ start) ++ ':' :: (stars ++ rest) =
        otherStart ++ ':' :: (otherStars ++ behind) := by simpa using whole
    obtain ⟨-, left⟩ := eq_of_first (List.not_mem_append earlier clean) otherClean same
    rwa [← dropStars_passed own, left, dropStars_passed otherOwn]

/-! ### The first label of a text -/

/-- The first label gives its value to the text. -/
theorem specsValue?_first {before label rest value : List Char} (ends : endsLine before = true)
    (first : ¬HoldsLabel before) (isLabel : IsSpecsLabel label)
    (own : labelledValue? (label ++ rest) = some value) :
    specsValue? (before ++ (label ++ rest)) = some value := by
  have begins : endsLine ([] ++ before) = true := ends
  refine specsValueFrom?_scan begins own fun passed left whole line other found => ?_
  have none : ∀ other behind, left = other ++ behind → ¬IsSpecsLabel other := by
    rintro other behind rfl isOther
    exact first ⟨passed, other, behind, whole, line, isOther⟩
  have same := labelledValue?_overlap isLabel none found
  exact Option.some.inj (same.symm.trans own)

/-- A value is read at the beginning of some line. -/
theorem specsValueFrom?_eq_some {before text value : List Char}
    (found : specsValueFrom? (endsLine before) text = some value) :
    ∃ passed left, text = passed ++ left ∧ endsLine (before ++ passed) = true ∧
      labelledValue? left = some value := by
  induction text generalizing before with
  | nil =>
      have nowhere : ∀ line, specsValueFrom? line [] = none := by decide
      rw [nowhere] at found
      cases found
  | cons c text ih =>
      have later (there : specsValueFrom? (c == '\n') text = some value) :
          ∃ passed left, c :: text = passed ++ left ∧ endsLine (before ++ passed) = true ∧
            labelledValue? left = some value := by
        rw [← endsLine_concat before c] at there
        obtain ⟨passed, left, rfl, line, own⟩ := ih there
        exact ⟨c :: passed, left, rfl, by simpa using line, own⟩
      cases begins : endsLine before with
      | false =>
          rw [begins, specsValueFrom?_within] at found
          exact later found
      | true =>
          rw [begins] at found
          cases here : labelledValue? (c :: text) with
          | none =>
              rw [specsValueFrom?_of_none here] at found
              exact later found
          | some own =>
              rw [specsValueFrom?_of_some here] at found
              exact ⟨[], c :: text, rfl, by simpa using begins, here.trans found⟩

/-- Where only blanks are left, no value is read that shows anything. -/
theorem Text.lineRemainder?_invisible {text value rest : List Char}
    (blank : ∀ c ∈ text, isBlank c = true) (read : lineRemainder? text = some (value, rest)) :
    ∀ c ∈ value, isBlank c = true := by
  unfold lineRemainder? lastOffNewline? at read
  rw [show dropBlank text = [] from List.dropWhile_eq_nil_iff.mpr blank] at read
  obtain ⟨c, last, same⟩ := Option.map_eq_some_iff.mp read
  obtain ⟨rfl, -⟩ := Prod.mk.inj same
  exact List.forall_mem_singleton.mpr
    (blank c (List.mem_reverse.mp (List.mem_of_find?_eq_some last)))

/-- Where nothing but blanks follows the first label, no value is read that shows anything. -/
theorem specsValue?_invisible {before label rest value : List Char} (first : ¬HoldsLabel before)
    (isLabel : IsSpecsLabel label) (blank : ∀ c ∈ dropStars rest, isBlank c = true)
    (found : specsValue? (before ++ (label ++ rest)) = some value) :
    ∀ c ∈ value, isBlank c = true := by
  have begins : specsValueFrom? (endsLine []) (before ++ (label ++ rest)) = some value := found
  obtain ⟨passed, left, whole, line, read⟩ := specsValueFrom?_eq_some begins
  obtain ⟨other, behind, rfl, isOther⟩ := labelledValue?_eq_some read
  rw [labelledValue?_behind isOther] at read
  obtain ⟨start, stars, rfl, clean, own, -⟩ := isLabel.exists_colon
  obtain ⟨otherStart, otherStars, rfl, -, otherOwn, shorter⟩ := isOther.exists_colon
  have uncolored : ':' ∉ stars ++ rest := by
    have colorless {part : List Char} (stars : ∀ c ∈ part, c = '*') : ':' ∉ part :=
      fun member => absurd (stars ':' member) (by decide)
    obtain ⟨more, all, starred⟩ := exists_dropStars rest
    rw [starred]
    simp only [List.mem_append, not_or]
    exact ⟨colorless own, colorless all, fun member => absurd (blank ':' member) (by decide)⟩
  have same : (before ++ start ++ [':']) ++ (stars ++ rest) =
      (passed ++ otherStart) ++ ':' :: (otherStars ++ behind) := by simpa using whole
  obtain ⟨between, colon⟩ := stands_in_first uncolored same
  -- The other label ends with the colon of this one, as it would else stand before.
  have sameLeft : otherStars ++ behind = stars ++ rest := by
    rw [colon] at same
    rcases List.eq_nil_or_concat between with rfl | ⟨between, d, rfl⟩
    · simpa using same.symm
    · rw [List.concat_eq_append, ← List.cons_append, ← List.append_assoc] at colon
      obtain ⟨after, inside⟩ := stands_in_first clean (List.append_inj' colon rfl).1
      exact absurd ⟨passed, otherStart ++ [':'], after, by simpa using inside, line,
        shorter [] (List.forall_mem_nil _)⟩ first
  rw [← dropStars_passed otherOwn, sameLeft, dropStars_passed own] at read
  obtain ⟨⟨value, rest⟩, remainder, rfl⟩ := Option.map_eq_some_iff.mp read
  exact lineRemainder?_invisible blank remainder

/-! ### The specs of a value -/

/-- Blanks around a value do not count. -/
theorem specIdsOf_trim (value : List Char) : specIdsOf (trim value) = specIdsOf value := by
  unfold specIdsOf
  rw [trim_trim]

/-- A blank value names no specs. -/
theorem specIdsOf_blank {value : List Char} (blank : ∀ c ∈ value, isBlank c = true) :
    specIdsOf value = [] := by
  rw [← specIdsOf_trim, trim_eq_nil_iff.mpr blank]
  decide

/-- A line that shows something begins with what it shows. -/
theorem exists_visibleLine {text : List Char} (shows : dropBlank text ≠ []) :
    ∃ c line, visibleLine text = c :: line ∧ isBlank c = false := by
  obtain ⟨c, more, begins⟩ := List.exists_cons_of_ne_nil shows
  have visible : isBlank c = false := visible_of_dropBlank begins
  have other : (c != '\n') = true := by
    rw [bne_iff_ne]
    rintro rfl
    exact absurd visible (by decide)
  refine ⟨c, more.takeWhile (· != '\n'), ?_, visible⟩
  rw [visibleLine, begins]
  exact List.takeWhile_cons_of_pos (p := (· != '\n')) other

/-- The value behind a label is the first line that shows something, without blanks at its end. -/
theorem lineRemainder?_visible {text : List Char} (shows : dropBlank text ≠ []) :
    (lineRemainder? text).map (·.1) = some (trim (visibleLine text)) := by
  obtain ⟨d, line, first, visible⟩ := exists_visibleLine shows
  obtain ⟨c, more, begins⟩ := List.exists_cons_of_ne_nil shows
  rw [first, trim_eq_trimEnd (dropBlank_of_not_blank visible line), ← first, lineRemainder?,
    visibleLine, begins]
  rfl

theorem visibleLine_blank {text : List Char} (blank : ∀ c ∈ text, isBlank c = true) :
    visibleLine text = [] := by
  rw [visibleLine, show dropBlank text = [] from List.dropWhile_eq_nil_iff.mpr blank]
  rfl

/-- Blanks before a line that shows something do not count. -/
theorem visibleLine_append {lead : List Char} (blank : ∀ c ∈ lead, isBlank c = true)
    (text : List Char) : visibleLine (lead ++ text) = visibleLine text := by
  rw [visibleLine, dropBlank_append blank, visibleLine]

/-- A line that shows something is the first one where it stands first. -/
theorem visibleLine_line {line after : List Char} (shows : ∃ c ∈ line, isBlank c = false)
    (unbroken : '\n' ∉ line) (stops : ∀ c, after.head? = some c → c = '\n') :
    visibleLine (line ++ after) = dropBlank line := by
  obtain ⟨c, member, visible⟩ := shows
  cases begins : dropBlank line with
  | nil => exact absurd (List.dropWhile_eq_nil_iff.mp begins c member) (by simp [visible])
  | cons d more =>
      have within : '\n' ∉ d :: more := fun member =>
        unbroken ((dropBlank_suffix line).mem (begins ▸ member))
      rw [visibleLine, dropBlank_append_of_visible begins, upToNewline_ended within stops]

/-- Behind its first label a proposal names what stands on the first line that is not blank. -/
theorem affectedSpecs_first {proposal : String} {before label rest : List Char}
    (whole : proposal.toList = before ++ (label ++ rest)) (ends : endsLine before = true)
    (first : ¬HoldsLabel before) (isLabel : IsSpecsLabel label) :
    affectedSpecs proposal = specIdsOf (visibleLine (dropStars rest)) := by
  unfold affectedSpecs
  rw [whole]
  by_cases blank : ∀ c ∈ dropStars rest, isBlank c = true
  · rw [visibleLine_blank blank, specIdsOf_blank (List.forall_mem_nil _)]
    cases found : specsValue? (before ++ (label ++ rest)) with
    | none => rfl
    | some value => exact specIdsOf_blank (specsValue?_invisible first isLabel blank found)
  · have shows : dropBlank (dropStars rest) ≠ [] :=
      fun empty => blank (List.dropWhile_eq_nil_iff.mp empty)
    have own := (labelledValue?_behind isLabel rest).trans (lineRemainder?_visible shows)
    rw [specsValue?_first ends first isLabel own]
    exact specIdsOf_trim _

/-- A text with a label has a first one. -/
theorem HoldsLabel.exists_first {text : List Char} (holds : HoldsLabel text) :
    ∃ before label rest, text = before ++ (label ++ rest) ∧ endsLine before = true ∧
      ¬HoldsLabel before ∧ IsSpecsLabel label := by
  obtain ⟨before, label, rest, whole, ends, isLabel⟩ := holds
  induction length : before.length using Nat.strong_induction_on generalizing before label rest with
  | _ length ih =>
      subst length
      by_cases earlier : HoldsLabel before
      · obtain ⟨shorter, other, between, rfl, line, isOther⟩ := earlier
        have filled := List.length_pos_of_mem isOther.colon_mem
        have less : shorter.length < (shorter ++ (other ++ between)).length := by
          simp only [List.length_append]
          omega
        exact ih _ less shorter other (between ++ (label ++ rest)) (by simpa using whole) line
          isOther rfl
      · exact ⟨before, label, rest, whole, ends, earlier, isLabel⟩

/-- A text with a label can be cut at the first one. -/
theorem HoldsLabel.exists_cut {text : List Char} (holds : HoldsLabel text) :
    ∃ before label value after, IsCutAtLabel text before label value after := by
  obtain ⟨before, label, rest, rfl, ends, first, isLabel⟩ := holds.exists_first
  obtain ⟨start, stars, rfl, -, own, longer⟩ := isLabel.exists_colon
  obtain ⟨more, all, starred⟩ := exists_dropStars rest
  refine ⟨before, start ++ ':' :: (stars ++ more), (upToNewline (dropStars rest)).1,
    (upToNewline (dropStars rest)).2, ?_, ends, first,
    longer _ (List.forall_mem_append.mpr ⟨own, all⟩), ?_, ?_, ?_⟩
  · have joined : (upToNewline (dropStars rest)).1 ++ (upToNewline (dropStars rest)).2 =
        dropStars rest := List.takeWhile_append_dropWhile
    rw [joined]
    conv_lhs => rw [starred]
    simp
  · intro first
    unfold upToNewline at first
    rw [List.head?_takeWhile, Option.filter_eq_some_iff] at first
    exact head?_dropStars rest first.1
  · intro member
    simpa using List.all_eq_true.mp List.all_takeWhile _ member
  · intro c first
    have stops := List.head?_dropWhile_not (· != '\n') (dropStars rest)
    unfold upToNewline at first
    rw [first] at stops
    simpa using stops

/-- **A proposal names what follows its first label.**  A proposal without a label names no specs,
and any other one can be cut at its first label.  It names the specs of the value on the label's
line, whatever stands on other lines, if that value is not blank.  If it is, the specs are those of
the first line below that is not blank, whatever it says. -/
theorem specs_follow_first_label (proposal : String) :
    (¬HoldsLabel proposal.toList → affectedSpecs proposal = []) ∧
    (HoldsLabel proposal.toList →
      ∃ before label value after, IsCutAtLabel proposal.toList before label value after) ∧
    ∀ before label value after, IsCutAtLabel proposal.toList before label value after →
      ((∃ c ∈ value, isBlank c = false) → affectedSpecs proposal = specIdsOf value) ∧
      ((∀ c ∈ value, isBlank c = true) →
        affectedSpecs proposal = specIdsOf (visibleLine after)) := by
  refine ⟨fun unlabelled => ?_, HoldsLabel.exists_cut, fun before label value after cut => ?_⟩
  · unfold affectedSpecs
    cases found : specsValue? proposal.toList with
    | none => rfl
    | some value =>
        have begins : specsValueFrom? (endsLine []) proposal.toList = some value := found
        obtain ⟨passed, left, whole, line, read⟩ := specsValueFrom?_eq_some begins
        obtain ⟨label, rest, rfl, isLabel⟩ := labelledValue?_eq_some read
        exact absurd ⟨passed, label, rest, whole, line, isLabel⟩ unlabelled
  · have named := affectedSpecs_first cut.whole cut.ends cut.first cut.isLabel
    have starless : dropStars (value ++ after) = value ++ after := by
      change dropStars ([] ++ (value ++ after)) = _
      refine dropStars_append (List.forall_mem_nil _) ?_
      cases value with
      | nil => exact fun star => absurd (cut.stops _ star) (by decide)
      | cons c value => exact cut.unstarred
    rw [starless] at named
    constructor
    · intro shows
      obtain ⟨lead, blank, same⟩ := exists_dropBlank value
      rw [named, visibleLine_line shows cut.unbroken cut.stops, ← specIdsOf_trim,
        ← trim_append blank, ← same, specIdsOf_trim]
    · intro blank
      rw [named, visibleLine_append blank]

/-! ### Values beside a label and below it -/

namespace LabelledLines

/-- A list of specs on the line of its label, which stands in stars behind other lines. -/
def besideProposal : String :=
  "# Search\n- **Affected specs:** `auth`, md\nlogin"

/-- A label without a value, and a list below it. -/
def belowProposal : String :=
  "Affected specs:\n\nauth, md\nlogin"

theorem not_holdsLabel {text : List Char} (short : text.length < 15) : ¬HoldsLabel text := by
  rintro ⟨before, label, rest, rfl, -, isLabel⟩
  have least := length_label isLabel
  simp only [List.length_append] at short
  omega

theorem isSpecsLabel_starred : IsSpecsLabel "- **Affected specs:**".toList := by
  have stars : ∀ c ∈ "**".toList, c = '*' := List.all_iff_forall_prop.mp (by decide)
  have label : IsSpecsLabel ([] ++ (['-'] ++ ([' '] ++ ("**".toList ++ ("Affected specs".toList ++
      ([] ++ ([] ++ ':' :: "**".toList))))))) :=
    .mk nofun (by decide) (List.all_iff_forall_prop.mp (by decide)) stars (by decide) nofun nofun
      stars
  exact label

theorem isCut_beside : IsCutAtLabel besideProposal.toList "# Search\n".toList
    "- **Affected specs:**".toList " `auth`, md".toList "\nlogin".toList where
  whole := by
    unfold besideProposal
    repeat rw [String.toList_ofList]
    rfl
  ends := by decide
  first := not_holdsLabel (by decide)
  isLabel := isSpecsLabel_starred
  unstarred := by decide
  unbroken := by decide
  stops c first := (Option.some.inj first).symm

/-- A label at the beginning of a proposal, without a value. -/
theorem isCut_bare {after : List Char} (stops : ∀ c, after.head? = some c → c = '\n') :
    IsCutAtLabel ("Affected specs:".toList ++ after) [] "Affected specs:".toList [] after where
  whole := rfl
  ends := rfl
  first := not_holdsLabel (by decide)
  isLabel := isSpecsLabel_plain [] [] (by decide) nofun
  unstarred := nofun
  unbroken := List.not_mem_nil
  stops := stops

/-- A list is read beside its label, and also below it; without a label nothing is. -/
theorem listed_specs_are_read :
    (¬HoldsLabel "# Search".toList ∧ affectedSpecs "# Search" = []) ∧
      affectedSpecs besideProposal = ["auth", "md"] ∧
      affectedSpecs belowProposal = ["auth", "md"] := by
  have unlabelled : ¬HoldsLabel "# Search".toList := not_holdsLabel (by decide)
  obtain ⟨-, -, beside⟩ := specs_follow_first_label besideProposal
  obtain ⟨-, -, below⟩ := specs_follow_first_label belowProposal
  refine ⟨⟨unlabelled, (specs_follow_first_label "# Search").1 unlabelled⟩, ?_, ?_⟩
  · rw [(beside _ _ _ _ isCut_beside).1 ⟨'a', by decide, by decide⟩]
    decide +kernel
  · have whole : belowProposal.toList =
        "Affected specs:".toList ++ "\n\nauth, md\nlogin".toList := by
      unfold belowProposal
      repeat rw [String.toList_ofList]
      rfl
    have cut : IsCutAtLabel belowProposal.toList [] "Affected specs:".toList []
        "\n\nauth, md\nlogin".toList := by
      rw [whole]
      exact isCut_bare fun c first => (Option.some.inj first).symm
    rw [(below _ _ _ _ cut).2 (List.forall_mem_nil _)]
    decide +kernel

/-- Two proposals whose first label has the same blank value do not name the same specs: a line
below the label is taken for its value. -/
theorem line_below_is_taken :
    let label := "Affected specs:".toList
    IsCutAtLabel "Affected specs:".toList [] label [] [] ∧
      IsCutAtLabel "Affected specs:\nauth".toList [] label [] "\nauth".toList ∧
      affectedSpecs "Affected specs:" = [] ∧ affectedSpecs "Affected specs:\nauth" = ["auth"] := by
  exact ⟨isCut_bare nofun, isCut_bare fun c first => (Option.some.inj first).symm,
    by decide +kernel, by decide +kernel⟩

end LabelledLines

end PlanCycle
