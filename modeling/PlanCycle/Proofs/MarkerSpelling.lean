/-
Module: PlanCycle.Proofs.MarkerSpelling
Purpose: In which spellings a marker is read: a keyword in any mix of letter cases, with separators
  between its letters and blanks and marks around it, in tags and attributes of any letter case and
  with any blanks.
Main exports:
  Keyword.Spells, Keyword.Wraps, Keyword.IsSpelling, Keyword.IsSpelling.condensed, Marker.HoldsWord,
  Marker.States, Marker.States.status?, Marker.IsOpening, Marker.IsClosing, Marker.all_spelled,
  Review.spelling_does_not_count
-/
import Mathlib.Data.List.Infix
import Mathlib.Data.List.TakeWhile
import PlanCycle.Proofs.OfferedVerdict
import PlanCycle.Proofs.SpecsLabel

namespace PlanCycle

open Text Marker

namespace Text

/-- Around a text that begins and ends with kept characters, what is dropped is dropped from what
stands before and behind it. -/
theorem trimOf_around {drop : Char → Bool} {c d : Char} {core rest init : List Char}
    (begins : core = c :: rest) (ends : core = init ++ [d]) (first : drop c = false)
    (last : drop d = false) (front back : List Char) :
    trimOf drop (front ++ (core ++ back)) =
      trimStartOf drop front ++ (core ++ trimEndOf drop back) := by
  have start : trimStartOf drop (front ++ (core ++ back)) =
      trimStartOf drop front ++ (core ++ back) := by
    unfold trimStartOf
    rw [List.dropWhile_append, begins, List.cons_append,
      List.dropWhile_cons_of_neg (by simp [first])]
    split
    · rename_i none
      rw [List.isEmpty_iff.mp none, List.nil_append]
    · rfl
  have split (front back : List Char) : front ++ (core ++ back) = front ++ init ++ d :: back := by
    simp [ends]
  unfold trimOf
  rw [start, split, trimEndOf_append_kept last, ← split]

end Text

/-! ### Spellings of a keyword -/

namespace Keyword

/-- The letters of keywords. -/
def smallLetters : List Char := "abcdefghijklmnopqrstuvwxyz".toList

/-- Whether a text spells a word: its letters in either case, with separators between them. -/
inductive Spells : (word text : List Char) → Prop
  | last {letter c : Char} (own : c = letter ∨ c = letter.toUpper) : Spells [letter] [c]
  | more {letter c : Char} {word gap text : List Char} (own : c = letter ∨ c = letter.toUpper)
      (separators : ∀ d ∈ gap, isSeparator d = true) (others : Spells word text) :
      Spells (letter :: word) (c :: (gap ++ text))

/-- Whether a text is a word between blanks and marks that may surround a keyword: on either side
blanks, marks and blanks, or less. -/
inductive Wraps (word : List Char) : List Char → Prop
  | mk {lead opening indent gap closing trail : List Char}
      (lead_blank : ∀ c ∈ lead, isBlank c = true)
      (opening_marks : ∀ c ∈ opening, isWrapping c = true)
      (indent_blank : ∀ c ∈ indent, isBlank c = true) (gap_blank : ∀ c ∈ gap, isBlank c = true)
      (closing_marks : ∀ c ∈ closing, isWrapping c = true)
      (trail_blank : ∀ c ∈ trail, isBlank c = true) :
      Wraps word (lead ++ (opening ++ indent) ++ (word ++ (gap ++ closing ++ trail)))

/-- What a letter of a keyword is in either case. -/
structure IsLetter (letter c : Char) : Prop where
  ascii : c.toNat < 128
  lower : c.toLower = letter
  visible : isBlank c = false
  bare : isWrapping c = false
  kept : isSeparator letter = false
  untagged : c ≠ '<'

theorem isLetter_iff {letter c : Char} : IsLetter letter c ↔ c.toNat < 128 ∧ c.toLower = letter ∧
    isBlank c = false ∧ isWrapping c = false ∧ isSeparator letter = false ∧ c ≠ '<' :=
  ⟨fun ⟨ascii, lower, visible, bare, kept, untagged⟩ =>
      ⟨ascii, lower, visible, bare, kept, untagged⟩,
    fun ⟨ascii, lower, visible, bare, kept, untagged⟩ =>
      ⟨ascii, lower, visible, bare, kept, untagged⟩⟩

instance (letter c : Char) : Decidable (IsLetter letter c) :=
  decidable_of_iff _ isLetter_iff.symm

theorem isLetter_of_small {letter c : Char} (small : letter ∈ smallLetters)
    (own : c = letter ∨ c = letter.toUpper) : IsLetter letter c := by
  have either : ∀ letter ∈ smallLetters, IsLetter letter letter ∧ IsLetter letter letter.toUpper :=
    List.all_iff_forall_prop.mp (by decide +kernel)
  rcases own with rfl | rfl
  · exact (either c small).1
  · exact (either letter small).2

theorem not_isBlank_of_isWrapping {c : Char} (wrapping : isWrapping c = true) :
    isBlank c = false := by
  have all : ∀ c ∈ ['*', '`', '[', ']', '(', ')', '.', ':', '"', '\''], isBlank c = false :=
    List.all_iff_forall_prop.mp (by decide)
  exact all c (of_decide_eq_true wrapping)

/-- A separator is its own lower case. -/
theorem lower_of_isSeparator {c : Char} (separator : isSeparator c = true) :
    c.toNat ≠ 0x3A3 ∧ lowerCharacter c = [c] := by
  unfold isSeparator at separator
  rw [Bool.or_eq_true, Bool.or_eq_true, beq_iff_eq, beq_iff_eq] at separator
  rcases separator with (blank | rfl) | rfl
  · exact ⟨(IsMark.lower (.inl blank)).1, lowerCharacter_of_blank blank⟩
  · decide
  · decide

/-- Separators leave no trace. -/
theorem filter_separators {gap : List Char} (separators : ∀ d ∈ gap, isSeparator d = true)
    (before rest : List Char) :
    (lowerAfter before (gap ++ rest)).filter (!isSeparator ·) =
      (lowerAfter (gap.reverse ++ before) rest).filter (!isSeparator ·) := by
  induction gap generalizing before with
  | nil => rfl
  | cons d gap ih =>
      obtain ⟨here, others⟩ := List.forall_mem_cons.mp separators
      obtain ⟨other, lower⟩ := lower_of_isSeparator here
      rw [List.cons_append, lowerAfter, if_neg other, lower, List.singleton_append,
        List.filter_cons_of_neg (by simp [here]), ih others]
      simp

section
variable {word text : List Char} (spells : Spells word text)
include spells

/-- A spelled word is the word, once it is in lower case and without separators. -/
theorem Spells.condensed (small : ∀ letter ∈ word, letter ∈ smallLetters) (before : List Char) :
    (lowerAfter before text).filter (!isSeparator ·) = word := by
  induction spells generalizing before with
  | last own =>
      have letter := isLetter_of_small (small _ List.mem_cons_self) own
      rw [lowerAfter_ascii letter.ascii, letter.lower,
        List.filter_cons_of_pos (by simp [letter.kept])]
      rfl
  | more own separators others ih =>
      obtain ⟨here, rest⟩ := List.forall_mem_cons.mp small
      have letter := isLetter_of_small here own
      rw [lowerAfter_ascii letter.ascii, letter.lower,
        List.filter_cons_of_pos (by simp [letter.kept]), filter_separators separators, ih rest]

/-- A spelled word begins and ends with letters. -/
theorem Spells.ends (small : ∀ letter ∈ word, letter ∈ smallLetters) :
    (∃ letter c rest, text = c :: rest ∧ IsLetter letter c) ∧
      ∃ letter d init, text = init ++ [d] ∧ IsLetter letter d := by
  induction spells with
  | @last letter c own =>
      have letter := isLetter_of_small (small _ List.mem_cons_self) own
      exact ⟨⟨_, c, [], rfl, letter⟩, _, c, [], rfl, letter⟩
  | @more letter c word gap text own separators others ih =>
      obtain ⟨here, rest⟩ := List.forall_mem_cons.mp small
      obtain ⟨-, last, d, init, rfl, ended⟩ := ih rest
      refine ⟨⟨_, c, _, rfl, isLetter_of_small here own⟩, last, d, c :: (gap ++ init), ?_, ended⟩
      simp

end

/-- Blanks, marks and blanks are dropped in three turns. -/
theorem peeled {lead opening indent : List Char} (lead_blank : ∀ c ∈ lead, isBlank c = true)
    (opening_marks : ∀ c ∈ opening, isWrapping c = true)
    (indent_blank : ∀ c ∈ indent, isBlank c = true) :
    dropBlank (trimStartOf isWrapping (dropBlank (lead ++ (opening ++ indent)))) = [] := by
  have blank : dropBlank indent = [] := List.dropWhile_eq_nil_iff.mpr indent_blank
  rw [dropBlank_append lead_blank]
  cases opening with
  | nil =>
      rw [List.nil_append, blank]
      rfl
  | cons mark opening =>
      have visible := not_isBlank_of_isWrapping (opening_marks mark List.mem_cons_self)
      rw [List.cons_append, dropBlank_of_not_blank visible, ← List.cons_append]
      unfold trimStartOf
      rw [List.dropWhile_append_of_pos opening_marks]
      cases indent with
      | nil => rfl
      | cons c indent =>
          have bare : isWrapping c = false := by
            cases wrapping : isWrapping c with
            | false => rfl
            | true =>
                have visible := not_isBlank_of_isWrapping wrapping
                rw [indent_blank c List.mem_cons_self] at visible
                cases visible
          rw [List.dropWhile_cons_of_neg (by simp [bare]), blank]

theorem peeled_end {gap closing trail : List Char} (gap_blank : ∀ c ∈ gap, isBlank c = true)
    (closing_marks : ∀ c ∈ closing, isWrapping c = true)
    (trail_blank : ∀ c ∈ trail, isBlank c = true) :
    trimEnd (trimEndOf isWrapping (trimEnd (gap ++ closing ++ trail))) = [] := by
  -- Read from its end, the text is of the same kind.
  have turned : dropBlank (trimStartOf isWrapping
      (dropBlank (trail.reverse ++ (closing.reverse ++ gap.reverse)))) = [] :=
    peeled (by simpa using trail_blank) (by simpa using closing_marks) (by simpa using gap_blank)
  unfold trimEnd trimEndOf
  rw [List.reverse_reverse, List.reverse_reverse, List.reverse_append, List.reverse_append]
  exact congrArg List.reverse turned

/-- A word between blanks and marks is bared. -/
theorem Wraps.trim {word text : List Char} (wraps : Wraps word text) {c d : Char}
    {rest init : List Char} (begins : word = c :: rest) (ends : word = init ++ [d])
    (first : isBlank c = false ∧ isWrapping c = false)
    (last : isBlank d = false ∧ isWrapping d = false) :
    trim (trimOf isWrapping (trim text)) = word := by
  obtain ⟨lead_blank, opening_marks, indent_blank, gap_blank, closing_marks, trail_blank⟩ := wraps
  unfold Text.trim
  rw [trimOf_around begins ends first.1 last.1, trimOf_around begins ends first.2 last.2,
    trimOf_around begins ends first.1 last.1]
  have front := peeled lead_blank opening_marks indent_blank
  have back := peeled_end gap_blank closing_marks trail_blank
  unfold dropBlank at front
  unfold trimEnd at back
  rw [front, back, List.nil_append, List.append_nil]

/-- Whether a text is a word in some spelling: letters in either case, separators between them, and
blanks and marks around them. -/
def IsSpelling (word text : List Char) : Prop :=
  ∃ spelled, Spells word spelled ∧ Wraps spelled text

section
variable {word text : List Char} (spelling : IsSpelling word text)
  (small : ∀ letter ∈ word, letter ∈ smallLetters)
include spelling small

/-- Condensed, each spelling of a word is the word. -/
theorem IsSpelling.condensed : condensed text = word := by
  obtain ⟨spelled, spells, wraps⟩ := spelling
  obtain ⟨⟨_, c, rest, begins, first⟩, _, d, init, ends, last⟩ := spells.ends small
  have bared := wraps.trim begins ends ⟨first.visible, first.bare⟩ ⟨last.visible, last.bare⟩
  unfold Keyword.condensed bare
  rw [bared]
  exact spells.condensed small []

/-- No tag begins in a spelling of a word. -/
theorem IsSpelling.untagged : '<' ∉ text := by
  obtain ⟨spelled, spells, wraps⟩ := spelling
  obtain ⟨lead_blank, opening_marks, indent_blank, gap_blank, closing_marks, trail_blank⟩ := wraps
  have other {kind : Char → Bool} (apart : kind '<' = false) {part : List Char}
      (all : ∀ c ∈ part, kind c = true) : '<' ∉ part := by
    intro member
    rw [all '<' member] at apart
    cases apart
  have within : '<' ∉ spelled := by
    clear lead_blank opening_marks indent_blank gap_blank closing_marks trail_blank
    induction spells with
    | last own =>
        have letter := isLetter_of_small (small _ List.mem_cons_self) own
        simpa using letter.untagged.symm
    | more own separators others ih =>
        obtain ⟨here, rest⟩ := List.forall_mem_cons.mp small
        have letter := isLetter_of_small here own
        exact List.not_mem_cons_of_ne_of_not_mem letter.untagged.symm
          (List.not_mem_append (other (by decide) separators) (ih rest))
  have blank : isBlank '<' = false := by decide
  have mark : isWrapping '<' = false := by decide
  exact List.not_mem_append
    (List.not_mem_append (other blank lead_blank)
      (List.not_mem_append (other mark opening_marks) (other blank indent_blank)))
    (List.not_mem_append within (List.not_mem_append
      (List.not_mem_append (other blank gap_blank) (other mark closing_marks))
      (other blank trail_blank)))

end

end Keyword

namespace Verdict

/-- Keywords are spelled in small letters. -/
theorem small_of_known {entry : String × Verdict} (known : entry ∈ keywords) :
    ∀ letter ∈ entry.1.toList, letter ∈ Keyword.smallLetters := by
  have small : keywords.all (·.1.toList.all (· ∈ Keyword.smallLetters)) = true := by
    unfold Keyword.smallLetters
    rw [String.toList_ofList]
    decide +kernel
  intro letter member
  exact of_decide_eq_true
    (List.all_eq_true.mp (List.all_eq_true.mp small entry known) letter member)

/-- A keyword names its verdict, whether the text may go on after it or not. -/
theorem ofKeyword_of_condensed {entry : String × Verdict} (known : entry ∈ keywords)
    {text : List Char} (named : Keyword.condensed text = entry.1.toList) (exact : Bool) :
    ofKeyword exact text = entry.2 := by
  have found : ∀ entry ∈ keywords, ∀ exact : Bool, (keywords.find? fun other =>
      if exact then other.1.toList == entry.1.toList
      else other.1.toList.isPrefixOf entry.1.toList) = some entry := by
    decide
  unfold ofKeyword
  simp only [named, found entry known exact]
  rfl

end Verdict

namespace Marker

/-! ### The status in an opening tag -/

/-- Whether a word stands in a text, in some mix of letter cases and with no word character before
or behind it. -/
def HoldsWord (word text : List Char) : Prop :=
  ∃ before own after, text = before ++ (own ++ after) ∧ own.map foldLetter = word ∧
    endsWord before.reverse = true ∧ endsWord after = true

theorem holdsWord_iff {word text : List Char} : HoldsWord word text ↔
    (List.range (text.length + 1)).any (fun k => endsWord (text.take k).reverse &&
      (dropWord? word (text.drop k)).any endsWord) = true := by
  simp only [List.any_eq_true, List.mem_range, Bool.and_eq_true]
  constructor
  · rintro ⟨before, own, after, rfl, folded, starts, ends⟩
    refine ⟨before.length, by simp only [List.length_append]; omega, ?_, ?_⟩
    · rwa [List.take_left]
    · rw [List.drop_left, dropWord?_eq_some_iff.mpr ⟨own, folded, rfl⟩]
      exact ends
  · rintro ⟨k, -, starts, read⟩
    obtain ⟨after, named, ends⟩ := Option.any_eq_true _ _ |>.mp read
    obtain ⟨own, folded, rest⟩ := dropWord?_eq_some_iff.mp named
    exact ⟨text.take k, own, after, by rw [← rest, List.take_append_drop], folded, starts, ends⟩

instance (word text : List Char) : Decidable (HoldsWord word text) :=
  decidable_of_iff _ holdsWord_iff.symm

/-- Whether attributes state a status in double quotes, and none before it. -/
inductive States (value : List Char) : List Char → Prop
  | mk {before name gap indent after : List Char} (unnamed : ¬HoldsWord "status".toList before)
      (apart : endsWord before.reverse = true) (named : name.map foldLetter = "status".toList)
      (gap_blank : ∀ c ∈ gap, isBlank c = true) (indent_blank : ∀ c ∈ indent, isBlank c = true)
      (unquoted : '"' ∉ value) :
      States value (before ++ (name ++ (gap ++ '=' :: (indent ++ '"' :: (value ++ '"' :: after)))))

/-- What stands for a letter is a word character. -/
theorem isWordCharacter_of_folded {c : Char} (folded : foldLetter c ∈ Keyword.smallLetters) :
    isWordCharacter c = true := by
  have codes : ∀ n < 128, (Char.ofNat n).toLower ∈ Keyword.smallLetters →
      isWordCharacter (Char.ofNat n) = true := by
    unfold Keyword.smallLetters
    rw [String.toList_ofList]
    decide +kernel
  have others : ∀ n ∈ [0x130, 0x131, 0x17F, 0x212A], isWordCharacter (Char.ofNat n) = true := by
    decide +kernel
  have known (n : Nat) (same : c.toNat = n) (among : n ∈ [0x130, 0x131, 0x17F, 0x212A]) :
      isWordCharacter c = true := by
    rw [← Char.ofNat_toNat c, same]
    exact others n among
  unfold foldLetter at folded
  split at folded
  · rename_i ascii
    obtain ⟨n, small, rfl⟩ := exists_code ascii
    exact codes n small folded
  · rename_i large
    split at folded
    · rename_i dot
      exact dot.elim (fun same => known _ same (by decide)) fun same => known _ same (by decide)
    split at folded
    · rename_i same
      exact known _ same (by decide)
    split at folded
    · rename_i same
      exact known _ same (by decide)
    · have ascii : ∀ letter ∈ Keyword.smallLetters, letter.toNat < 128 :=
        List.all_iff_forall_prop.mp (by decide)
      exact absurd (ascii c folded) large

/-- A word character is no blank, and not the mark behind a name. -/
theorem visible_of_isWordCharacter {c : Char} (word : isWordCharacter c = true) :
    isBlank c = false ∧ c ≠ '=' := by
  have blanks : ∀ n ∈ Keyword.blankCodes, isWordCharacter (Char.ofNat n) = false := by
    decide +kernel
  constructor
  · cases blank : isBlank c with
    | false => rfl
    | true =>
        have other := blanks c.toNat (Keyword.mem_blankCodes blank)
        rw [Char.ofNat_toNat, word] at other
        cases other
  · rintro rfl
    revert word
    decide

theorem statusAfter?_eq (inWord : Bool) (c : Char) (text : List Char) :
    statusAfter? inWord (c :: text) =
      ((if inWord then none else (dropWord? "status".toList (c :: text)).bind fun rest =>
        (dropMark? '=' rest).bind attributeValue?) <|> statusAfter? (isWordCharacter c) text) := by
  cases inWord with
  | false => rfl
  | true => rfl

theorem endsWord_concat (text : List Char) (c : Char) :
    endsWord (text ++ [c]).reverse = !isWordCharacter c := by
  rw [List.reverse_append]
  rfl

/-- No status is read in a text in which its name does not stand, if the name cannot go on behind
that text. -/
theorem unread_of_unnamed {seen before rest : List Char} (filled : before ≠ [])
    (unnamed : ¬HoldsWord "status".toList (seen ++ before)) (starts : endsWord seen.reverse = true)
    (apart : rest = [] ∨ endsWord (seen ++ before).reverse = true) :
    ((dropWord? "status".toList (before ++ rest)).bind fun after =>
      (dropMark? '=' after).bind attributeValue?) = none := by
  cases named : dropWord? "status".toList (before ++ rest) with
  | none => rfl
  | some after =>
      obtain ⟨own, folded, whole⟩ := dropWord?_eq_some_iff.mp named
      have small : ∀ letter ∈ "status".toList, letter ∈ Keyword.smallLetters :=
        List.all_iff_forall_prop.mp (by decide)
      have letters : ∀ c ∈ own, isWordCharacter c = true := fun c member =>
        isWordCharacter_of_folded (small _ (folded ▸ List.mem_map_of_mem member))
      -- The name either goes on behind the text or ends in it.
      rcases List.append_eq_append_iff.mp whole with ⟨more, longer, rest_eq⟩ | ⟨more, split, rfl⟩
      · rcases apart with none | ends
        · obtain ⟨rfl, rfl⟩ := List.append_eq_nil_iff.mp (rest_eq.symm.trans none)
          rw [List.append_nil] at longer
          exact absurd ⟨seen, own, [], by rw [longer, List.append_nil], folded, starts, rfl⟩ unnamed
        · have last := letters _ (longer ▸ List.mem_append_left more (List.getLast_mem filled))
          rw [← List.dropLast_concat_getLast filled, ← List.append_assoc, endsWord_concat,
            last] at ends
          cases ends
      · cases more with
        | nil => exact absurd ⟨seen, own, [], by rw [split], folded, starts, rfl⟩ unnamed
        | cons d more =>
            cases word : isWordCharacter d with
            | false =>
                have ends : endsWord (d :: more) = true := by simp [endsWord, word]
                exact absurd ⟨seen, own, d :: more, by rw [split], folded, starts, ends⟩ unnamed
            | true =>
                -- A longer word begins with the name, and the mark cannot follow at once.
                obtain ⟨visible, other⟩ := visible_of_isWordCharacter word
                have none : dropMark? '=' (d :: more ++ rest) = none := by
                  unfold dropMark?
                  rw [List.cons_append, dropBlank_of_not_blank visible]
                  exact if_neg other
                rw [Option.bind_some, none]
                rfl

/-- A text in which the name of the status does not stand is passed over, if the name cannot go on
behind it. -/
theorem statusAfter?_append {seen before rest : List Char}
    (unnamed : ¬HoldsWord "status".toList (seen ++ before))
    (apart : rest = [] ∨ endsWord (seen ++ before).reverse = true) :
    statusAfter? (!endsWord seen.reverse) (before ++ rest) =
      statusAfter? (!endsWord (seen ++ before).reverse) rest := by
  induction before generalizing seen with
  | nil => rw [List.append_nil, List.nil_append]
  | cons c before ih =>
      have longer : seen ++ c :: before = seen ++ [c] ++ before := by simp
      have later := ih (longer ▸ unnamed) (longer ▸ apart)
      rw [endsWord_concat, Bool.not_not, ← longer] at later
      rw [List.cons_append, statusAfter?_eq, ← later]
      cases starts : endsWord seen.reverse with
      | false => rfl
      | true =>
          have unread := unread_of_unnamed (List.cons_ne_nil c before) unnamed starts apart
          rw [List.cons_append] at unread
          rw [unread]
          rfl

/-- Attributes without the name of the status state none. -/
theorem status?_of_unnamed {attributes : List Char}
    (unnamed : ¬HoldsWord "status".toList attributes) (body : List Char) :
    status? ⟨attributes, body⟩ = none := by
  have passed := @statusAfter?_append [] attributes [] unnamed (.inl rfl)
  rw [List.append_nil] at passed
  unfold status?
  rw [show statusAfter? false attributes = none from passed]
  rfl

theorem attributeValue?_indent {indent : List Char} (blank : ∀ c ∈ indent, isBlank c = true)
    (text : List Char) : attributeValue? (indent ++ text) = attributeValue? text := by
  unfold attributeValue?
  rw [dropBlank_append blank]

theorem dropMark?_indent {indent : List Char} (blank : ∀ c ∈ indent, isBlank c = true) {mark : Char}
    (visible : isBlank mark = false) (rest : List Char) :
    dropMark? mark (indent ++ mark :: rest) = some rest := by
  unfold dropMark?
  rw [dropBlank_append blank, dropBlank_of_not_blank visible]
  exact if_pos rfl

/-- The status that attributes state is read. -/
theorem States.status? {value attributes : List Char} (states : States value attributes)
    (filled : value ≠ []) (body : List Char) : status? ⟨attributes, body⟩ = some value := by
  obtain ⟨unnamed, apart, named, gap_blank, indent_blank, unquoted⟩ := states
  rename_i before name gap indent after
  have passed := @statusAfter?_append [] before
    (name ++ (gap ++ '=' :: (indent ++ '"' :: (value ++ '"' :: after)))) unnamed (.inr apart)
  rw [List.nil_append, apart] at passed
  have read : statusAfter? false
      (name ++ (gap ++ '=' :: (indent ++ '"' :: (value ++ '"' :: after)))) = some value := by
    cases name with
    | nil => cases named
    | cons c name =>
        rw [List.cons_append, statusAfter?_cons, ← List.cons_append,
          dropWord?_eq_some_iff.mpr ⟨_, named, rfl⟩, Option.bind_some,
          dropMark?_indent gap_blank (by decide), Option.bind_some,
          attributeValue?_indent indent_blank, attributeValue?_quoted unquoted]
        rfl
  unfold Marker.status?
  rw [show statusAfter? false _ = some value from passed.trans read, Option.filter_some]
  simp [filled]

/-! ### Tags in any spelling -/

/-- Whether a text is an opening tag with some attributes. -/
inductive IsOpening (attributes : List Char) : List Char → Prop
  | mk {gap name : List Char} (gap_blank : ∀ c ∈ gap, isBlank c = true)
      (named : name.map foldLetter = "review".toList) (apart : endsWord attributes = true)
      (bounded : '>' ∉ attributes) :
      IsOpening attributes ('<' :: (gap ++ (name ++ (attributes ++ ['>']))))

/-- Whether a text is a closing tag. -/
inductive IsClosing : List Char → Prop
  | mk {gap indent name trail : List Char} (gap_blank : ∀ c ∈ gap, isBlank c = true)
      (indent_blank : ∀ c ∈ indent, isBlank c = true)
      (named : name.map foldLetter = "review".toList)
      (trail_blank : ∀ c ∈ trail, isBlank c = true) :
      IsClosing ('<' :: (gap ++ '/' :: (indent ++ (name ++ (trail ++ ['>'])))))

/-- Whether no opening tag begins in a text, ended in it or not. -/
def Unopened (text : List Char) : Prop :=
  ∀ rest, rest <:+ text → opens rest = false

instance (text : List Char) : Decidable (Unopened text) :=
  decidable_of_iff (text.tails.all (!opens ·) = true) (by simp [Unopened])

/-- Whether a text holds no opening tag; one that is not ended is none. -/
def HoldsNoOpening (text : List Char) : Prop :=
  ∀ rest, rest <:+ text → opening? rest = none

instance (text : List Char) : Decidable (HoldsNoOpening text) :=
  decidable_of_iff (text.tails.all (opening? · |>.isNone) = true) (by simp [HoldsNoOpening])

/-- The name of a tag is read behind blanks, in any mix of letter cases. -/
theorem dropName?_spelled {gap name : List Char} (gap_blank : ∀ c ∈ gap, isBlank c = true)
    (named : name.map foldLetter = "review".toList) (rest : List Char) :
    dropWord? "review".toList (dropBlank (gap ++ (name ++ rest))) = some rest := by
  cases name with
  | nil => cases named
  | cons c name =>
      have folded : foldLetter c = 'r' := (List.cons.inj named).1
      have letter : foldLetter c ∈ Keyword.smallLetters := folded ▸ by decide
      have visible := (visible_of_isWordCharacter (isWordCharacter_of_folded letter)).1
      rw [dropBlank_append gap_blank, List.cons_append, dropBlank_of_not_blank visible]
      exact dropWord?_eq_some_iff.mpr ⟨c :: name, named, rfl⟩

theorem IsOpening.read {attributes text : List Char} (isOpening : IsOpening attributes text)
    (rest : List Char) : opening? (text ++ rest) = some (attributes, rest) := by
  obtain ⟨gap_blank, named, apart, bounded⟩ := isOpening
  rename_i gap name
  have before : ∀ c ∈ attributes, (c != '>') = true := by
    intro c member
    simp only [bne_iff_ne, ne_eq]
    rintro rfl
    exact bounded member
  have parts : '<' :: (gap ++ (name ++ (attributes ++ ['>']))) ++ rest =
      '<' :: (gap ++ (name ++ (attributes ++ '>' :: rest))) := by
    simp
  have taken : (attributes ++ '>' :: rest).takeWhile (· != '>') = attributes := by
    rw [List.takeWhile_append_of_pos before]
    simp
  have dropped : (attributes ++ '>' :: rest).dropWhile (· != '>') = '>' :: rest := by
    rw [List.dropWhile_append_of_pos before]
    simp
  have ends : endsWord (attributes ++ '>' :: rest) = true := by
    cases attributes with
    | nil => rfl
    | cons c attributes => exact apart
  rw [parts]
  unfold opening?
  simp only [dropName?_spelled gap_blank named, Option.bind_eq_bind, Option.bind_some, dropped,
    taken, ends, if_true]

theorem IsClosing.read {text : List Char} (isClosing : IsClosing text) (rest : List Char) :
    closing? (text ++ rest) = some rest := by
  obtain ⟨gap_blank, indent_blank, named, trail_blank⟩ := isClosing
  rename_i gap indent name trail
  have parts : '<' :: (gap ++ '/' :: (indent ++ (name ++ (trail ++ ['>'])))) ++ rest =
      '<' :: (gap ++ '/' :: (indent ++ (name ++ (trail ++ '>' :: rest)))) := by
    simp
  rw [parts, closing?_tag, dropMark?_indent gap_blank (by decide), Option.bind_some,
    dropName?_spelled indent_blank named, Option.bind_some,
    dropMark?_indent trail_blank (by decide)]

/-- No closing tag begins in a text that holds none, whichever tag follows. -/
theorem unclosed_before_tag {text : List Char} (unclosed : untilClosing? text = none)
    (rest : List Char) : Unclosed text ('<' :: rest) := by
  rw [← unclosed_iff] at unclosed
  induction text with
  | nil => trivial
  | cons c text ih =>
      obtain ⟨here, later⟩ := unclosed
      rw [List.append_nil] at here
      refine ⟨?_, ih later⟩
      rw [closing?_before_tag, here]
      rfl

/-- A marker is found between its tags, however they are spelled. -/
theorem complete?_spelled {attributes opening body closing : List Char}
    (isOpening : IsOpening attributes opening) (isClosing : IsClosing closing)
    (unclosed : untilClosing? body = none) (rest : List Char) :
    complete? (opening ++ (body ++ (closing ++ rest))) = some (⟨attributes, body⟩, rest) := by
  obtain ⟨after, begins⟩ : ∃ after, closing ++ rest = '<' :: after := by
    obtain ⟨⟩ := isClosing
    exact ⟨_, rfl⟩
  have closed : untilClosing? (closing ++ rest) = some ([], rest) := by
    have here := isClosing.read rest
    rw [begins] at here ⊢
    rw [untilClosing?, here]
  have reached := untilClosing?_append (begins ▸ unclosed_before_tag unclosed after)
  unfold complete?
  simp only [isOpening.read, Option.bind_eq_bind, Option.bind_some, reached, closed,
    Option.map_some, List.append_nil]

theorem Unopened.tail {c : Char} {text : List Char} (unopened : Unopened (c :: text)) :
    Unopened text :=
  fun rest last => unopened rest (last.trans (List.suffix_cons c text))

/-- A text in which no opening tag begins leaves none open and holds no marker. -/
theorem settled_of_unopened {text : List Char} (unopened : Unopened text) :
    pending? text = none ∧ all text = [] := by
  induction text with
  | nil =>
      rw [pending?, all_nil]
      exact ⟨rfl, rfl⟩
  | cons c text ih =>
      obtain ⟨settled, none⟩ := ih unopened.tail
      have plain := unopened _ List.suffix_rfl
      have incomplete := incomplete_of_not_opens plain
      rw [pending?_of_incomplete incomplete, all_of_incomplete incomplete, plain]
      exact ⟨settled, none⟩

/-- A text without an opening tag holds no marker. -/
theorem all_of_holdsNoOpening {text : List Char} (unopened : HoldsNoOpening text) :
    all text = [] := by
  induction text with
  | nil => exact all_nil
  | cons c text ih =>
      have incomplete : complete? (c :: text) = none := by
        unfold complete?
        rw [unopened _ List.suffix_rfl]
        rfl
      rw [all_of_incomplete incomplete]
      exact ih fun rest last => unopened rest (last.trans (List.suffix_cons c text))

/-- A marker is the only one if no opening tag begins before it and none stands behind it. -/
theorem all_spelled {attributes before opening body closing after : List Char}
    (isOpening : IsOpening attributes opening) (isClosing : IsClosing closing)
    (unclosed : untilClosing? body = none) (unopened : Unopened before)
    (also : HoldsNoOpening after) :
    all (before ++ (opening ++ (body ++ (closing ++ after)))) = [⟨attributes, body⟩] := by
  have found := complete?_spelled isOpening isClosing unclosed after
  obtain ⟨rest, begins⟩ : ∃ rest, opening ++ (body ++ (closing ++ after)) = '<' :: rest := by
    obtain ⟨⟩ := isOpening
    exact ⟨_, rfl⟩
  obtain ⟨settled, none⟩ := settled_of_unopened unopened
  rw [begins, all_append_of_settled settled, none, ← begins, all_of_complete found,
    all_of_holdsNoOpening also, List.nil_append]

end Marker

/-! ### Which verdict a marker states -/

/-- A status that names a verdict decides. -/
theorem Marker.verdict_of_status {marker : Marker} {stated : List Char} {verdict : Verdict}
    (states : marker.status? = some stated) (named : Verdict.ofKeyword false stated = verdict)
    (decided : verdict ≠ .unknown) : marker.verdict = verdict := by
  unfold Marker.verdict
  rw [states, Option.map_some, Option.getD_some, named]
  cases verdict with
  | unknown => exact absurd rfl decided
  | _ => rfl

/-- Without a status a body that names a verdict decides. -/
theorem Marker.verdict_of_body {marker : Marker} {verdict : Verdict}
    (silent : marker.status? = none) (named : Verdict.ofKeyword true marker.body = verdict)
    (decided : verdict ≠ .unknown) :
    marker.verdict = verdict := by
  unfold Marker.verdict Verdict.ofBody
  rw [silent, named]
  cases verdict with
  | unknown => exact absurd rfl decided
  | _ => rfl

/-- **The spelling of a marker does not count.**  For each keyword of a verdict but the unknown one,
in any spelling: as the body of a marker without a status, or as its status in double quotes
whatever its body says, it decides the review.  The name of the tag and of the status may stand in
any mix of letter cases, blanks may stand around them and around the marks, and the opening tag may
hold other attributes. -/
theorem Review.spelling_does_not_count {entry : String × Verdict} (known : entry ∈ Verdict.keywords)
    (decided : entry.2 ≠ .unknown) {keyword : List Char}
    (spelling : Keyword.IsSpelling entry.1.toList keyword)
    {before attributes opening body closing after : List Char}
    (isOpening : IsOpening attributes opening) (isClosing : IsClosing closing)
    (unopened : Unopened before ∧ HoldsNoOpening after)
    (said : (¬HoldsWord "status".toList attributes ∧ body = keyword) ∨
      (States keyword attributes ∧ untilClosing? body = none)) :
    (Review.parse (String.ofList
      (before ++ (opening ++ (body ++ (closing ++ after)))))).verdict = entry.2 := by
  have small := Verdict.small_of_known known
  have named := Verdict.ofKeyword_of_condensed known (spelling.condensed small)
  have unclosed : untilClosing? body = none := by
    rcases said with ⟨-, rfl⟩ | ⟨-, unclosed⟩
    · exact (unclosed_iff _).mp (unclosed_of_untagged (spelling.untagged small) [])
    · exact unclosed
  have last : (Marker.all (String.ofList
      (before ++ (opening ++ (body ++ (closing ++ after))))).toList).getLast? =
      some ⟨attributes, body⟩ := by
    rw [String.toList_ofList, all_spelled isOpening isClosing unclosed unopened.1 unopened.2]
    rfl
  rw [(Review.parse_of_last last).1]
  rcases said with ⟨unnamed, rfl⟩ | ⟨states, -⟩
  · exact Marker.verdict_of_body (status?_of_unnamed unnamed _) (named true) decided
  · have filled : keyword ≠ [] := by
      rintro rfl
      have nonempty : ∀ entry ∈ Verdict.keywords, entry.1.toList ≠ [] := by decide
      exact nonempty entry known (spelling.condensed small).symm
    exact Marker.verdict_of_status (states.status? filled _) (named false) decided

/-- A status in a strange spelling is read, behind a tag of another name and an attribute that
speaks of statuses, and against a body that names another verdict. -/
theorem Review.strange_spelling_is_read :
    (Review.parse ("Neither <reviews> nor <revie w> is one. </review>\n<\nREview " ++
      "class=\"statuses\"\nsTaTuS\t= \" \t.*\u00A0P_-a\ns\u2003S**' \" status=rejected>" ++
      "REJECTED <review status='rejected'> </reviews>< /\treVIEW >Done <review")).verdict =
      .approved := by
  have each {kind : Char → Bool} {part : List Char} (all : part.all kind = true) :
      ∀ c ∈ part, kind c = true := List.all_eq_true.mp all
  have spells : Keyword.Spells ['p', 'a', 's', 's']
      ('P' :: (['_', '-'] ++ 'a' :: (['\n'] ++ 's' :: (['\u2003'] ++ ['S'])))) :=
    .more (.inr rfl) (each rfl)
      (.more (.inl rfl) (each rfl) (.more (.inl rfl) (each rfl) (.last (.inr rfl))))
  have wraps : Keyword.Wraps _ ([' ', '\t'] ++ (['.', '*'] ++ ['\u00A0']) ++
      ('P' :: (['_', '-'] ++ 'a' :: (['\n'] ++ 's' :: (['\u2003'] ++ ['S']))) ++
        ([] ++ ['*', '*', '\''] ++ [' ']))) :=
    .mk (each rfl) (each rfl) (each rfl) (each rfl) (each rfl) (each rfl)
  have states (value : List Char) (unquoted : '"' ∉ value) :
      States value (" class=\"statuses\"\n".toList ++ ("sTaTuS".toList ++ (['\t'] ++ '=' ::
        ([' '] ++ '"' :: (value ++ '"' :: " status=rejected".toList))))) :=
    .mk (by decide +kernel) (by decide) (by decide) (each rfl) (each rfl) unquoted
  have isOpening (attributes : List Char) (apart : endsWord attributes = true)
      (bounded : '>' ∉ attributes) :
      IsOpening attributes ('<' :: (['\n'] ++ ("REview".toList ++ (attributes ++ ['>'])))) :=
    .mk (each rfl) (by decide) apart bounded
  have isClosing : IsClosing
      ('<' :: ([' '] ++ '/' :: (['\t'] ++ ("reVIEW".toList ++ ([' '] ++ ['>']))))) :=
    .mk (each rfl) (each rfl) (by decide) (each rfl)
  have spelling : Keyword.IsSpelling "pass".toList _ := ⟨_, by simpa using spells, wraps⟩
  have unopened : Unopened "Neither <reviews> nor <revie w> is one. </review>\n".toList ∧
      HoldsNoOpening "Done <review".toList := by decide +kernel
  have unclosed : untilClosing? "REJECTED <review status='rejected'> </reviews>".toList = none := by
    decide +kernel
  have read := Review.spelling_does_not_count
    (show ("pass", Verdict.approved) ∈ Verdict.keywords by decide) (by decide) spelling
    (isOpening _ (by decide) (by decide)) isClosing unopened (.inr ⟨states _ (by decide), unclosed⟩)
  refine (congrArg (fun text => (Review.parse text).verdict) ?_).trans read
  rw [← String.toList_inj, String.toList_append, String.toList_append]
  repeat rw [String.toList_ofList]
  rfl

end PlanCycle
