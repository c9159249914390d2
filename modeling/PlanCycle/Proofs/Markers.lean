/-
Module: PlanCycle.Proofs.Markers
Purpose: Review markers in a text: one is found where it was put, whatever its body quotes, as long
  as no closing tag stands in it.
Main exports:
  Marker.closing?_break, Marker.Unclosed, Marker.unclosed_ended, Marker.tagged,
  Marker.complete?_tagged, Marker.all_of_complete
-/
import PlanCycle.Proofs.Lines
import PlanCycle.Review.Marker

namespace PlanCycle

open Text

/-! ### Words and blanks across a line break -/

namespace Text

/-- A word does not run over a character that is none of its letters. -/
theorem dropWord?_break {d : Char} {word : List Char}
    (letters : word.any (matchesLetter · d) = false) (text rest : List Char) :
    dropWord? word (text ++ d :: rest) = (dropWord? word text).map (· ++ d :: rest) := by
  induction word generalizing text with
  | nil => rfl
  | cons letter word ih =>
      obtain ⟨first, others⟩ := Bool.or_eq_false_iff.mp letters
      cases text with
      | nil => simp [dropWord?, first]
      | cons c text =>
          simp only [List.cons_append, dropWord?, ih others text]
          split
          · rfl
          · rfl

/-- What is read of a text is read of a longer one. -/
theorem dropWord?_append {word text after : List Char} (found : dropWord? word text = some after)
    (rest : List Char) : dropWord? word (text ++ rest) = some (after ++ rest) := by
  induction word generalizing text with
  | nil =>
      cases found
      rfl
  | cons letter word ih =>
      cases text with
      | nil => cases found
      | cons c text =>
          unfold dropWord? at found
          rw [List.cons_append, dropWord?]
          split at found
          · rename_i same
            rw [if_pos same]
            exact ih found
          · cases found

/-- What follows a word is an end of the text. -/
theorem dropWord?_suffix {word text rest : List Char} (found : dropWord? word text = some rest) :
    rest <:+ text := by
  induction word generalizing text with
  | nil =>
      cases found
      exact List.suffix_rfl
  | cons letter word ih =>
      cases text with
      | nil => cases found
      | cons c text =>
          unfold dropWord? at found
          split at found
          · exact (ih found).trans (List.suffix_cons c text)
          · cases found

theorem dropWord?_review (rest : List Char) :
    dropWord? "review".toList ("review".toList ++ rest) = some rest := by
  have whole : dropWord? "review".toList "review".toList = some [] := by decide
  exact dropWord?_append whole rest

end Text

namespace Marker

/-! ### Where no closing tag begins -/

/-- Whether what stands after a line break cannot be the middle of a closing tag. -/
def BeginsAfresh (rest : List Char) : Prop :=
  ∀ c more, dropBlank rest = c :: more → c ≠ '/' ∧ c ≠ '>' ∧ matchesLetter 'r' c = false

theorem dropMark?_break {mark : Char} {rest : List Char}
    (other : ∀ c more, dropBlank rest = c :: more → c ≠ mark) (text : List Char) :
    dropMark? mark (text ++ '\n' :: rest) = (dropMark? mark text).map (· ++ '\n' :: rest) := by
  unfold dropMark?
  cases start : dropBlank text with
  | nil =>
      rw [dropBlank_append_of_blank start, dropBlank_of_blank (by decide)]
      cases next : dropBlank rest with
      | nil => rfl
      | cons c more => simp [other c more next]
  | cons c more =>
      rw [dropBlank_append_of_visible start]
      dsimp only [List.cons_append]
      split
      · rfl
      · rfl

theorem closing?_tag (text : List Char) :
    closing? ('<' :: text) = (dropMark? '/' text).bind fun rest =>
      (dropWord? "review".toList (dropBlank rest)).bind (dropMark? '>') := rfl

theorem closing?_of_untagged {c : Char} (untagged : c ≠ '<') (text : List Char) :
    closing? (c :: text) = none := by
  unfold closing?
  split
  · rename_i same
    exact absurd (List.cons.inj same).1 untagged
  · rfl

/-- The name of a tag does not run over a line break after which something else begins. -/
theorem dropName?_break {rest : List Char} (afresh : BeginsAfresh rest) (text : List Char) :
    dropWord? "review".toList (dropBlank (text ++ '\n' :: rest)) =
      (dropWord? "review".toList (dropBlank text)).map (· ++ '\n' :: rest) := by
  cases start : dropBlank text with
  | nil =>
      rw [dropBlank_append_of_blank start, dropBlank_of_blank (by decide)]
      cases next : dropBlank rest with
      | nil => rfl
      | cons c more =>
          have other := (afresh c more next).2.2
          simp [dropWord?, other]
  | cons c more =>
      rw [dropBlank_append_of_visible start]
      exact dropWord?_break (by decide) (c :: more) rest

/-- A closing tag does not run over a line break after which something else begins. -/
theorem closing?_break {rest : List Char} (afresh : BeginsAfresh rest) (c : Char)
    (text : List Char) :
    closing? (c :: text ++ '\n' :: rest) = (closing? (c :: text)).map (· ++ '\n' :: rest) := by
  by_cases tag : c = '<'
  · subst tag
    rw [List.cons_append, closing?_tag, closing?_tag,
      dropMark?_break fun c more next => (afresh c more next).1]
    cases dropMark? '/' text with
    | none => rfl
    | some after =>
        simp only [Option.map_some, Option.bind_some, dropName?_break afresh]
        cases dropWord? "review".toList (dropBlank after) with
        | none => rfl
        | some after =>
            exact dropMark?_break (fun c more next => (afresh c more next).2.1) after
  · rw [List.cons_append, closing?_of_untagged tag, closing?_of_untagged tag]
    rfl

/-- Whether no closing tag begins in a text that another one follows. -/
def Unclosed : (text after : List Char) → Prop
  | [], _ => True
  | c :: text, after => closing? (c :: text ++ after) = none ∧ Unclosed text after

theorem Unclosed.append {first second after : List Char} (one : Unclosed first (second ++ after))
    (two : Unclosed second after) : Unclosed (first ++ second) after := by
  induction first with
  | nil => exact two
  | cons c first ih =>
      obtain ⟨here, later⟩ := one
      refine ⟨?_, ih later⟩
      have same : c :: (first ++ second) ++ after = c :: first ++ (second ++ after) := by simp
      exact same ▸ here

theorem unclosed_iff (text : List Char) : Unclosed text [] ↔ untilClosing? text = none := by
  induction text with
  | nil => simp [Unclosed, untilClosing?]
  | cons c text ih =>
      unfold Unclosed untilClosing?
      rw [List.append_nil, ih]
      cases closing? (c :: text) with
      | none => simp
      | some rest => simp

/-- Where no tag begins no closing tag does. -/
theorem unclosed_of_untagged {text : List Char} (untagged : '<' ∉ text) (after : List Char) :
    Unclosed text after := by
  induction text with
  | nil => trivial
  | cons c text ih =>
      refine ⟨?_, ih fun member => untagged (List.mem_cons_of_mem c member)⟩
      refine closing?_of_untagged ?_ _
      rintro rfl
      exact untagged List.mem_cons_self

/-- The text before a closing tag is read over. -/
theorem untilClosing?_append {text after : List Char} (unclosed : Unclosed text after) :
    untilClosing? (text ++ after) =
      (untilClosing? after).map fun found => (text ++ found.1, found.2) := by
  induction text with
  | nil => simp
  | cons c text ih =>
      obtain ⟨here, later⟩ := unclosed
      rw [List.cons_append] at here ⊢
      rw [untilClosing?, here]
      simp [ih later, Function.comp_def]

theorem unclosed_append_newline {line rest : List Char} (unclosed : untilClosing? line = none)
    (afresh : BeginsAfresh rest) : Unclosed (line ++ ['\n']) rest := by
  rw [← unclosed_iff] at unclosed
  induction line with
  | nil => exact unclosed_of_untagged (by decide) rest
  | cons c line ih =>
      obtain ⟨here, later⟩ := unclosed
      refine ⟨?_, ih later⟩
      have split : c :: (line.append ['\n']) ++ rest = c :: line ++ '\n' :: rest := by
        simp
      rw [List.append_nil] at here
      rw [split, closing?_break afresh, here]
      rfl

/-- Whether a line holds no closing tag and cannot go on with one that began before it. -/
structure IsApart (line : List Char) : Prop where
  unclosed : untilClosing? line = none
  begins : ∀ c more, line = c :: more →
    isBlank c = false ∧ c ≠ '/' ∧ c ≠ '>' ∧ matchesLetter 'r' c = false

theorem beginsAfresh_ended {lines : List (List Char)} {after : List Char}
    (apart : ∀ line ∈ lines, IsApart line) (afresh : BeginsAfresh after) :
    BeginsAfresh (ended lines ++ after) := by
  induction lines with
  | nil => exact afresh
  | cons line lines ih =>
      rw [ended_cons, List.append_assoc, List.cons_append]
      cases line with
      | nil =>
          intro c more next
          rw [List.nil_append, dropBlank_of_blank (by decide)] at next
          exact ih (fun other member => apart other (List.mem_cons_of_mem _ member)) c more next
      | cons d line =>
          obtain ⟨visible, others⟩ := (apart (d :: line) List.mem_cons_self).begins d line rfl
          intro c more next
          rw [List.cons_append, dropBlank_of_not_blank visible] at next
          cases next
          exact others

/-- No closing tag begins in lines that hold none each. -/
theorem unclosed_ended {lines : List (List Char)} {after : List Char}
    (apart : ∀ line ∈ lines, IsApart line) (afresh : BeginsAfresh after) :
    Unclosed (ended lines) after := by
  induction lines with
  | nil => trivial
  | cons line lines ih =>
      have later : ∀ other ∈ lines, IsApart other := fun other member =>
        apart other (List.mem_cons_of_mem line member)
      have here := unclosed_append_newline (apart line List.mem_cons_self).unclosed
        (beginsAfresh_ended later afresh)
      have whole := here.append (ih later)
      rw [List.append_assoc] at whole
      rw [ended_cons]
      exact whole

/-! ### Markers where they were put -/

/-- An opening tag up to its attributes. -/
def openingStart : List Char := "<review ".toList

/-- A closing tag. -/
def closingTag : List Char := "</review>".toList

/-- A marker with attributes and a body. -/
def tagged (attributes body : List Char) : List Char :=
  openingStart ++ attributes ++ '>' :: body ++ closingTag

theorem opening?_tag {attributes : List Char} (bounded : '>' ∉ attributes) (rest : List Char) :
    opening? (openingStart ++ attributes ++ '>' :: rest) = some (' ' :: attributes, rest) := by
  have before : ∀ c ∈ ' ' :: attributes, (c != '>') = true := by
    intro c member
    rcases List.mem_cons.mp member with rfl | inside
    · decide
    · simp only [bne_iff_ne, ne_eq]
      rintro rfl
      exact bounded inside
  have named : dropWord? "review".toList (dropBlank
      ("review".toList ++ (' ' :: attributes ++ '>' :: rest))) =
      some (' ' :: attributes ++ '>' :: rest) := by
    have visible : dropBlank ("review".toList ++ (' ' :: attributes ++ '>' :: rest)) =
        "review".toList ++ (' ' :: attributes ++ '>' :: rest) :=
      dropBlank_of_not_blank (c := 'r') (by decide) _
    rw [visible]
    exact dropWord?_review _
  have taken : (' ' :: attributes ++ '>' :: rest).takeWhile (· != '>') = ' ' :: attributes := by
    rw [List.takeWhile_append_of_pos before]
    simp
  have dropped : (' ' :: attributes ++ '>' :: rest).dropWhile (· != '>') = '>' :: rest := by
    rw [List.dropWhile_append_of_pos before]
    simp
  change opening? ('<' :: ("review".toList ++ (' ' :: attributes ++ '>' :: rest))) = _
  unfold opening?
  simp only [named, Option.bind_eq_bind, Option.bind_some, taken, dropped]
  rfl

theorem dropMark?_self {mark : Char} (visible : isBlank mark = false) (rest : List Char) :
    dropMark? mark (mark :: rest) = some rest := by
  unfold dropMark?
  rw [dropBlank_of_not_blank visible]
  exact if_pos rfl

theorem closing?_closingTag (rest : List Char) :
    closing? (closingTag ++ rest) = some rest := by
  have visible : dropBlank ("review".toList ++ '>' :: rest) = "review".toList ++ '>' :: rest :=
    dropBlank_of_not_blank (c := 'r') (by decide) _
  change closing? ('<' :: '/' :: ("review".toList ++ '>' :: rest)) = _
  rw [closing?_tag, dropMark?_self (by decide), Option.bind_some, visible,
    dropWord?_review, Option.bind_some, dropMark?_self (by decide)]

/-- A marker is found where it was put. -/
theorem complete?_tagged {attributes body rest : List Char} (bounded : '>' ∉ attributes)
    (unclosed : Unclosed body (closingTag ++ rest)) :
    complete? (tagged attributes body ++ rest) = some (⟨' ' :: attributes, body⟩, rest) := by
  have opened : opening? (tagged attributes body ++ rest) =
      some (' ' :: attributes, body ++ (closingTag ++ rest)) := by
    have parts : tagged attributes body ++ rest =
        openingStart ++ attributes ++ '>' :: (body ++ (closingTag ++ rest)) := by
      simp [tagged]
    rw [parts]
    exact opening?_tag bounded _
  have closed : untilClosing? (closingTag ++ rest) = some ([], rest) := by
    have here : closing? ('<' :: ("/review>".toList ++ rest)) = some rest :=
      closing?_closingTag rest
    change untilClosing? ('<' :: ("/review>".toList ++ rest)) = _
    rw [untilClosing?, here]
  unfold complete?
  simp only [opened, Option.bind_eq_bind, Option.bind_some, untilClosing?_append unclosed, closed,
    Option.map_some, List.append_nil]

/-! ### All markers of a text -/

theorem all_of_complete {text rest : List Char} {marker : Marker}
    (found : complete? text = some (marker, rest)) : all text = marker :: all rest := by
  rw [all]
  split
  · rename_i other same
    rw [found] at same
    cases same
    rfl
  · rename_i absent
    rw [found] at absent
    cases absent

theorem all_newline (text : List Char) : all ('\n' :: text) = all text := by
  rw [all]
  split
  · rename_i found
    cases found
  · rfl

@[simp] theorem all_nil : all [] = [] := by
  rw [all]
  rfl

end Marker

end PlanCycle
