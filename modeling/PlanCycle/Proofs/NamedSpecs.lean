/-
Module: PlanCycle.Proofs.NamedSpecs
Purpose: Specs that are written down as a proposal names them are read back as they were written,
  in whatever decoration; a label that was left open before takes the line as its value.
Main exports:
  WrittenSpec, WrittenSpec.text, specsLine, WrittenSpec.bareId_text, specIdsOf_joined,
  specIdsOf_line, named_specs_are_read
-/
import Mathlib.Data.Bool.AllAny
import Mathlib.Data.List.TakeWhile
import PlanCycle.Proofs.Numerals
import PlanCycle.Proofs.SpecNames
import PlanCycle.Proofs.SpecsLabel

namespace PlanCycle

open Text

/-! ### Specs as they are written -/

/-- What may stand around a spec where it is named. -/
inductive IdWrapping where
  | none
  | backticks
  | brackets

/-- A text in its wrapping. -/
def IdWrapping.around : IdWrapping → String → String
  | .none, text => text
  | .backticks, text => "`" ++ text ++ "`"
  | .brackets, text => "[" ++ text ++ "]"

/-- A spec as a proposal may name it.  The id itself does not end like the name of its file. -/
structure WrittenSpec where
  id : String
  inFolder : Bool := false
  withEnding : Bool := false
  wrapping : IdWrapping := .none
  spelled : ∃ c rest, id.toList = c :: rest ∧ isIdStart c = true ∧ ∀ d ∈ rest, isIdPart d = true
  unended : ¬".md".toList <:+ id.toList

namespace WrittenSpec

/-- The id with what may stand before and behind it. -/
def bare (spec : WrittenSpec) : String :=
  (if spec.inFolder then "specs/" else "") ++ spec.id ++ (if spec.withEnding then ".md" else "")

/-- The spec as it is written. -/
def text (spec : WrittenSpec) : String :=
  spec.wrapping.around spec.bare

end WrittenSpec

/-- Specs in the order in which they are written. -/
def joinedSpecs (written : List WrittenSpec) : String :=
  ", ".intercalate (written.map WrittenSpec.text)

/-- The line on which a proposal names specs. -/
def specsLine (written : List WrittenSpec) : String :=
  "- Affected specs: " ++ joinedSpecs written

/-! ### The characters of ids -/

theorem isIdPart_ascii {c : Char} (part : isIdPart c = true) : c.toNat < 128 := by
  simp only [isIdPart, Bool.or_eq_true, beq_iff_eq] at part
  rcases part with ((letter | rfl) | rfl) | rfl
  · have code := code_of_isAlphanum letter
    omega
  all_goals decide

/-- Whether a character cannot be taken for anything that stands around an id. -/
structure IsPlainPart (c : Char) : Prop where
  visible : isBlank c = false
  unmarked : isIdMark c = false
  other : c ≠ ',' ∧ c ≠ '\n'

/-- The characters of ids are plain, and so are those of what stands before and behind an id. -/
theorem isPlainPart_of_part {c : Char} (part : isIdPart c = true ∨ c = '/') : IsPlainPart c := by
  have codes : ∀ n < 128, isIdPart (Char.ofNat n) = true →
      isBlank (Char.ofNat n) = false ∧ isIdMark (Char.ofNat n) = false ∧ Char.ofNat n ≠ ',' ∧
        Char.ofNat n ≠ '\n' := by
    decide +kernel
  rcases part with part | rfl
  · obtain ⟨n, small, rfl⟩ := exists_code (isIdPart_ascii part)
    obtain ⟨visible, unmarked, other⟩ := codes n small part
    exact ⟨visible, unmarked, other⟩
  · exact ⟨by decide, by decide, by decide⟩

/-- The small letter for a character of an id is one, too. -/
theorem isIdPart_toLower {c : Char} (part : isIdPart c = true) : isIdPart c.toLower = true := by
  have codes : ∀ n < 128, isIdPart (Char.ofNat n) = true →
      isIdPart (Char.ofNat n).toLower = true := by
    decide +kernel
  obtain ⟨n, small, rfl⟩ := exists_code (isIdPart_ascii part)
  exact codes n small part

/-! ### Texts in marks -/

namespace Text

/-- What is dropped at either end of a text is dropped, and nothing else. -/
theorem trimOf_wrapped {drop : Char → Bool} {front core back : List Char}
    (before : ∀ c ∈ front, drop c = true) (after : ∀ c ∈ back, drop c = true)
    (kept : ∀ c ∈ core, drop c = false) : trimOf drop (front ++ (core ++ back)) = core := by
  have none : back.dropWhile drop = [] :=
    List.dropWhile_eq_nil_iff.mpr after
  have dropped : ∀ c ∈ back.reverse, drop c = true := by simpa using after
  cases core with
  | nil =>
      unfold trimOf trimStartOf trimEndOf
      rw [List.dropWhile_append_of_pos before, List.nil_append, none]
      rfl
  | cons c core =>
      have own := Number.trimOf_of_none kept
      have first := kept c List.mem_cons_self
      unfold trimOf trimStartOf trimEndOf at own ⊢
      rw [List.dropWhile_append_of_pos before, List.cons_append,
        List.dropWhile_cons_of_neg (by simp [first]), ← List.cons_append, List.reverse_append,
        List.dropWhile_append_of_pos dropped]
      rwa [List.dropWhile_cons_of_neg (by simp [first])] at own

theorem trimOf_cons_kept {drop : Char → Bool} {c : Char} (kept : drop c = false)
    (text : List Char) : trimOf drop (c :: text) = c :: trimEndOf drop text := by
  unfold trimOf trimStartOf
  rw [List.dropWhile_cons_of_neg (by simp [kept])]
  exact trimEndOf_append_kept kept [] text

/-- An ending without a mark is an ending of what stands behind the mark. -/
theorem suffix_behind {ending front rest : List Char} {mark : Char}
    (ends : ending <:+ front ++ mark :: rest) (unmarked : mark ∉ ending) : ending <:+ rest := by
  rcases List.suffix_or_suffix_of_suffix ends (List.suffix_append front (mark :: rest)) with
    inside | longer
  · rcases List.suffix_cons_iff.mp inside with rfl | behind
    · exact absurd List.mem_cons_self unmarked
    · exact behind
  · exact absurd (longer.mem List.mem_cons_self) unmarked

end Text

theorem commaParts_of_none {part : List Char} (none : ',' ∉ part) : commaParts part = [part] := by
  induction part with
  | nil => rfl
  | cons c part ih =>
      obtain ⟨other, later⟩ := not_or.mp fun member => none (List.mem_cons.mpr member)
      rw [commaParts, if_neg (Ne.symm other), ih later]

theorem commaParts_append {part : List Char} (none : ',' ∉ part) (rest : List Char) :
    commaParts (part ++ ',' :: rest) = part :: commaParts rest := by
  induction part with
  | nil => rw [List.nil_append, commaParts, if_pos rfl]
  | cons c part ih =>
      obtain ⟨other, later⟩ := not_or.mp fun member => none (List.mem_cons.mpr member)
      rw [List.cons_append, commaParts, if_neg (Ne.symm other), ih later]

namespace IdWrapping

/-- A wrapping is made of marks. -/
theorem exists_marks (wrapping : IdWrapping) (text : String) :
    ∃ front back, (wrapping.around text).toList = front ++ (text.toList ++ back) ∧
      ∀ c ∈ front ++ back, isIdMark c = true ∧ isBlank c = false ∧ c ≠ ',' ∧ c ≠ '\n' := by
  cases wrapping with
  | none => exact ⟨[], [], by simp [around], nofun⟩
  | backticks => exact ⟨['\x60'], ['\x60'], by simp [around],
      List.all_iff_forall_prop.mp (by decide)⟩
  | brackets => exact ⟨['['], [']'], by simp [around],
      List.all_iff_forall_prop.mp (by decide)⟩

end IdWrapping

namespace WrittenSpec
variable (spec : WrittenSpec)

theorem id_parts : ∀ c ∈ spec.id.toList, isIdPart c = true := by
  obtain ⟨c, rest, whole, start, parts⟩ := spec.spelled
  rw [whole, List.forall_mem_cons]
  exact ⟨by simp [isIdPart, show c.isAlphanum = true from start], parts⟩

theorem isSpecId_id : isSpecId spec.id.toList = true := by
  have unended : dropLastNewline spec.id.toList = spec.id.toList := by
    refine if_neg fun last => ?_
    have part := spec.id_parts '\n' (List.mem_of_getLast? last)
    exact absurd part (by decide)
  obtain ⟨c, rest, whole, start, parts⟩ := spec.spelled
  rw [isSpecId, unended, whole]
  simpa [start] using parts

theorem toList_bare : spec.bare.toList = (if spec.inFolder then "specs/" else "").toList ++
    (spec.id.toList ++ (if spec.withEnding then ".md" else "").toList) := by
  simp [bare]

theorem bare_plain : ∀ c ∈ spec.bare.toList, IsPlainPart c := by
  have folder : ∀ c ∈ (if spec.inFolder then "specs/" else "").toList,
      isIdPart c = true ∨ c = '/' := by
    cases spec.inFolder <;> exact List.all_iff_forall_prop.mp (by decide)
  have ending : ∀ c ∈ (if spec.withEnding then ".md" else "").toList, isIdPart c = true := by
    cases spec.withEnding <;> exact List.all_iff_forall_prop.mp (by decide)
  intro c member
  refine isPlainPart_of_part ?_
  rw [toList_bare, List.mem_append, List.mem_append] at member
  rcases member with before | inside | after
  · exact folder c before
  · exact .inl (spec.id_parts c inside)
  · exact .inl (ending c after)

/-- A written spec shows characters that are neither blank nor a comma. -/
theorem text_plain : ∀ c ∈ spec.text.toList, isBlank c = false ∧ c ≠ ',' ∧ c ≠ '\n' := by
  obtain ⟨front, back, whole, marks⟩ := spec.wrapping.exists_marks spec.bare
  intro c member
  rw [text, whole, List.mem_append, List.mem_append] at member
  rcases member with before | inside | after
  · exact (marks c (List.mem_append_left _ before)).2
  · have plain := spec.bare_plain c inside
    exact ⟨plain.visible, plain.other⟩
  · exact (marks c (List.mem_append_right _ after)).2

theorem mem_text {c : Char} (member : c ∈ spec.bare.toList) : c ∈ spec.text.toList := by
  obtain ⟨front, back, whole, -⟩ := spec.wrapping.exists_marks spec.bare
  rw [text, whole]
  exact List.mem_append_right _ (List.mem_append_left _ member)

theorem text_ne_nil : spec.text.toList ≠ [] := by
  obtain ⟨c, rest, whole, -⟩ := spec.spelled
  refine List.ne_nil_of_mem (spec.mem_text (c := c) ?_)
  rw [toList_bare, whole]
  simp

/-- A written spec is read back as its id. -/
theorem bareId_text {lead : List Char} (blank : ∀ c ∈ lead, isBlank c = true) :
    bareId (lead ++ spec.text.toList) = spec.id.toList := by
  obtain ⟨front, back, whole, marks⟩ := spec.wrapping.exists_marks spec.bare
  have outer : trim (lead ++ spec.text.toList) = spec.text.toList := by
    rw [trim_append blank]
    exact Number.trimOf_of_none fun c member => (spec.text_plain c member).1
  have inner : trimOf isIdMark spec.text.toList = spec.bare.toList := by
    rw [text, whole]
    exact trimOf_wrapped (fun c member => (marks c (List.mem_append_left _ member)).1)
      (fun c member => (marks c (List.mem_append_right _ member)).1)
      fun c member => (spec.bare_plain c member).unmarked
  have core : trim spec.bare.toList = spec.bare.toList :=
    Number.trimOf_of_none fun c member => (spec.bare_plain c member).visible
  have unended : dropEnding ".md".toList spec.bare.toList =
      (if spec.inFolder then "specs/" else "").toList ++ spec.id.toList := by
    refine dropEnding_eq_iff.mpr ?_
    rw [toList_bare]
    cases spec.withEnding with
    | true => exact .inl (List.append_assoc ..).symm
    | false =>
        refine .inr ⟨fun ends => spec.unended ?_, by simp⟩
        cases inFolder : spec.inFolder with
        | false => simpa [inFolder] using ends
        | true =>
            rw [inFolder] at ends
            have behind : ".md".toList <:+ "specs".toList ++ '/' :: spec.id.toList := by
              simpa using ends
            exact suffix_behind behind (by decide)
  unfold bareId
  rw [outer, inner, core, unended]
  refine dropBeginning_eq_iff.mpr ?_
  cases spec.inFolder with
  | true => exact .inl rfl
  | false =>
      refine .inr ⟨fun begins => ?_, rfl⟩
      have slash := spec.id_parts '/' (begins.mem (by decide))
      exact absurd slash (by decide)

end WrittenSpec

/-! ### Lists of written specs -/

namespace WrittenSpec

/-- A written spec that is new is added by its id. -/
theorem addId_text (spec : WrittenSpec) {lead : List Char} (blank : ∀ c ∈ lead, isBlank c = true)
    {known : List String} (fresh : spec.id ∉ known) :
    addId known (lead ++ spec.text.toList) = known ++ [spec.id] := by
  unfold addId
  rw [spec.bareId_text blank]
  simp [spec.isSpecId_id, fresh]

/-- The parts behind the first one of a written list. -/
def others (written : List WrittenSpec) : List (List Char) :=
  written.map fun spec => ' ' :: spec.text.toList

theorem foldl_others {written : List WrittenSpec} {known : List String}
    (distinct : (known ++ written.map (·.id)).Nodup) :
    (others written).foldl addId known = known ++ written.map (·.id) := by
  induction written generalizing known with
  | nil => simp [others]
  | cons spec written ih =>
      have fresh : spec.id ∉ known := by
        intro member
        exact (List.nodup_append.mp distinct).2.2 spec.id member spec.id (by simp) rfl
      have blank : ∀ c ∈ [' '], isBlank c = true := List.all_iff_forall_prop.mp (by decide)
      have added : addId known (' ' :: spec.text.toList) = known ++ [spec.id] :=
        spec.addId_text blank fresh
      rw [others, List.map_cons, List.foldl_cons, added]
      refine (ih (by simpa using distinct)).trans ?_
      simp

end WrittenSpec

open WrittenSpec

@[simp] theorem toList_joinedSpecs_one (spec : WrittenSpec) :
    (joinedSpecs [spec]).toList = spec.text.toList := by
  simp [joinedSpecs, String.intercalate_singleton]

@[simp] theorem toList_joinedSpecs_more (spec next : WrittenSpec) (written : List WrittenSpec) :
    (joinedSpecs (spec :: next :: written)).toList =
      spec.text.toList ++ ',' :: ' ' :: (joinedSpecs (next :: written)).toList := by
  simp [joinedSpecs, String.intercalate_cons_cons]

/-- The line is cut at its commas into what was written. -/
theorem commaParts_joined {lead : List Char} (none : ',' ∉ lead) (spec : WrittenSpec)
    (written : List WrittenSpec) :
    commaParts (lead ++ (joinedSpecs (spec :: written)).toList) =
      (lead ++ spec.text.toList) :: others written := by
  have plain (spec : WrittenSpec) : ',' ∉ spec.text.toList :=
    fun member => (spec.text_plain ',' member).2.1 rfl
  induction written generalizing spec lead with
  | nil =>
      rw [toList_joinedSpecs_one, commaParts_of_none (List.not_mem_append none (plain spec))]
      rfl
  | cons next written ih =>
      rw [toList_joinedSpecs_more, ← List.append_assoc,
        commaParts_append (List.not_mem_append none (plain spec)),
        show ∀ text, ' ' :: text = [' '] ++ text from fun _ => rfl, ih (by decide)]
      rfl

/-- A written list begins and ends with characters that are not blank, and stays on its line. -/
theorem joinedSpecs_ends {written : List WrittenSpec} (filled : written ≠ []) :
    '\n' ∉ (joinedSpecs written).toList ∧
      (∃ c rest, (joinedSpecs written).toList = c :: rest ∧ isBlank c = false) ∧
      ∃ front d, (joinedSpecs written).toList = front ++ [d] ∧ isBlank d = false := by
  obtain ⟨spec, written, rfl⟩ := List.exists_cons_of_ne_nil filled
  clear filled
  induction written generalizing spec with
  | nil =>
      rw [toList_joinedSpecs_one]
      refine ⟨fun member => (spec.text_plain '\n' member).2.2 rfl, ?_, ?_⟩
      · obtain ⟨c, rest, whole⟩ := List.exists_cons_of_ne_nil spec.text_ne_nil
        exact ⟨c, rest, whole, (spec.text_plain c (whole ▸ List.mem_cons_self)).1⟩
      · refine ⟨_, _, (List.dropLast_concat_getLast spec.text_ne_nil).symm, ?_⟩
        exact (spec.text_plain _ (List.getLast_mem _)).1
  | cons next written ih =>
      obtain ⟨unbroken, -, front, d, ends, visible⟩ := ih next
      rw [toList_joinedSpecs_more]
      refine ⟨?_, ?_, ?_⟩
      · have own : '\n' ∉ spec.text.toList := fun member => (spec.text_plain '\n' member).2.2 rfl
        simp [own, unbroken]
      · obtain ⟨c, rest, whole⟩ := List.exists_cons_of_ne_nil spec.text_ne_nil
        rw [whole]
        exact ⟨c, _, rfl, (spec.text_plain c (whole ▸ List.mem_cons_self)).1⟩
      · exact ⟨spec.text.toList ++ ',' :: ' ' :: front, d, by simp [ends], visible⟩

/-! ### Values that say there are no specs -/

/-- What says that there are no specs holds no other characters than such a value does. -/
theorem saysNone_of_mem {value : List Char} {c : Char} (ascii : c.toNat < 128) (member : c ∈ value)
    (foreign : ∀ known ∈ ["none".toList, "n/a".toList, "[]".toList, "-".toList],
      c.toLower ∉ known) : saysNone value = false := by
  refine Bool.eq_false_iff.mpr fun known => ?_
  rw [saysNone, List.contains_iff_mem] at known
  exact foreign _ known (mem_lowerCase ascii member)

namespace WrittenSpec

/-- A spec is written as its id alone, or what stands around the id shows in it. -/
theorem text_eq_or_marked (spec : WrittenSpec) :
    spec.text = spec.id ∨ ∃ mark ∈ ['\x60', '[', 's', 'd'], mark ∈ spec.text.toList := by
  cases wrapped : spec.wrapping with
  | backticks => exact .inr ⟨'\x60', by decide, by simp [text, wrapped, IdWrapping.around]⟩
  | brackets => exact .inr ⟨'[', by decide, by simp [text, wrapped, IdWrapping.around]⟩
  | none =>
      cases inFolder : spec.inFolder with
      | true => exact .inr ⟨'s', by decide, spec.mem_text (by simp [bare, inFolder])⟩
      | false =>
          cases withEnding : spec.withEnding with
          | true => exact .inr ⟨'d', by decide, spec.mem_text (by simp [bare, withEnding])⟩
          | false =>
              exact .inl (by simp [text, wrapped, IdWrapping.around, bare, inFolder, withEnding])

/-- A written spec does not say that there are none, unless it is called so. -/
theorem saysNone_text {spec : WrittenSpec} (named : lowerCase spec.id.toList ≠ "none".toList) :
    saysNone spec.text.toList = false := by
  refine Bool.eq_false_iff.mpr fun known => ?_
  rw [saysNone, List.contains_iff_mem] at known
  -- The first letter of the id is in none of the values, except in two that hold no mark.
  obtain ⟨c, rest, whole, start, -⟩ := spec.spelled
  have among : c ∈ spec.id.toList := whole ▸ List.mem_cons_self
  have ascii : c.toNat < 128 := isIdPart_ascii (spec.id_parts c among)
  have first : c.toLower ∈ lowerCase spec.text.toList :=
    mem_lowerCase ascii (spec.mem_text (by simp [toList_bare, among]))
  have letter : c.toLower ∉ ['[', ']', '-'] := by
    have codes : ∀ n < 128, isIdStart (Char.ofNat n) = true →
        (Char.ofNat n).toLower ∉ ['[', ']', '-'] := by
      decide +kernel
    obtain ⟨n, small, rfl⟩ := exists_code ascii
    exact codes n small start
  have inside : ∀ known ∈ ["[]".toList, "-".toList], known ⊆ ['[', ']', '-'] := by decide
  have unmarked : lowerCase spec.text.toList ∈ ["none".toList, "n/a".toList] := by
    simp only [List.mem_cons, List.not_mem_nil, or_false] at known ⊢
    rcases known with none | short | brackets | dash
    · exact .inl none
    · exact .inr short
    · exact absurd (inside _ (by decide) (brackets ▸ first)) letter
    · exact absurd (inside _ (by decide) (dash ▸ first)) letter
  rcases spec.text_eq_or_marked with bare | ⟨mark, marks, member⟩
  · rw [bare] at unmarked
    have letters : ∀ c ∈ lowerCase spec.id.toList, isIdPart c = true := by
      rw [lowerCase_ascii fun c member => isIdPart_ascii (spec.id_parts c member)]
      intro c member
      obtain ⟨d, among, rfl⟩ := List.mem_map.mp member
      exact isIdPart_toLower (spec.id_parts d among)
    simp only [List.mem_cons, List.not_mem_nil, or_false] at unmarked
    rcases unmarked with none | short
    · exact named none
    · rw [short] at letters
      exact absurd (letters '/' (by decide)) (by decide)
  · have foreign : ∀ mark ∈ ['\x60', '[', 's', 'd'], mark.toNat < 128 ∧
        ∀ known ∈ ["none".toList, "n/a".toList], mark.toLower ∉ known :=
      List.all_iff_forall_prop.mp (by decide)
    obtain ⟨ascii, absent⟩ := foreign mark marks
    exact absent _ unmarked (mem_lowerCase ascii member)

end WrittenSpec

theorem saysNone_joined {written : List WrittenSpec} (filled : written ≠ [])
    (named : ∀ spec, written = [spec] → lowerCase spec.id.toList ≠ "none".toList) :
    saysNone (joinedSpecs written).toList = false := by
  obtain ⟨spec, written, rfl⟩ := List.exists_cons_of_ne_nil filled
  cases written with
  | nil =>
      rw [toList_joinedSpecs_one]
      exact saysNone_text (named spec rfl)
  | cons next written =>
      have comma : ',' ∈ (joinedSpecs (spec :: next :: written)).toList := by simp
      exact saysNone_of_mem (by decide) comma (by decide)

/-! ### What is read back -/

/-- A part that begins with a dash is no spec id. -/
theorem addId_dash (known : List String) (part : List Char) :
    addId known ('-' :: part) = known := by
  obtain ⟨trimmed, dashed⟩ : ∃ rest,
      trim (trimOf isIdMark (trim ('-' :: part))) = '-' :: rest := by
    unfold trim
    rw [trimOf_cons_kept (by decide), trimOf_cons_kept (by decide), trimOf_cons_kept (by decide)]
    exact ⟨_, rfl⟩
  obtain ⟨rest, bare⟩ : ∃ rest, bareId ('-' :: part) = '-' :: rest := by
    unfold bareId
    rw [dashed]
    rcases dropEnding_eq_iff.mp (rfl : dropEnding ".md".toList ('-' :: trimmed) = _) with
      whole | ⟨-, same⟩
    · cases left : dropEnding ".md".toList ('-' :: trimmed) with
      | nil =>
          rw [left] at whole
          cases whole
      | cons c rest =>
          rw [left] at whole
          obtain ⟨rfl, -⟩ := List.cons.inj whole
          exact ⟨rest, rfl⟩
    · rw [same]
      exact ⟨trimmed, rfl⟩
  obtain ⟨kept, unended⟩ : ∃ kept, dropLastNewline ('-' :: rest) = '-' :: kept := by
    unfold dropLastNewline
    split
    · cases rest with
      | nil => rename_i newline; exact absurd newline (by decide)
      | cons c rest => exact ⟨(c :: rest).dropLast, rfl⟩
    · exact ⟨rest, rfl⟩
  have invalid : isSpecId ('-' :: rest) = false := by
    rw [isSpecId, unended]
    rfl
  unfold addId
  rw [bare]
  simp [invalid]

theorem trim_joinedSpecs {written : List WrittenSpec} (filled : written ≠ []) :
    trim (joinedSpecs written).toList = (joinedSpecs written).toList := by
  obtain ⟨-, ⟨c, rest, begins, first⟩, front, d, ends, last⟩ := joinedSpecs_ends filled
  exact trim_of_ends begins ends first last

/-- The specs of a written list are read in order. -/
theorem specIdsOf_joined {written : List WrittenSpec} (filled : written ≠ [])
    (distinct : (written.map (·.id)).Nodup)
    (named : ∀ spec, written = [spec] → lowerCase spec.id.toList ≠ "none".toList) :
    specIdsOf (joinedSpecs written).toList = written.map (·.id) := by
  unfold specIdsOf
  rw [trim_joinedSpecs filled]
  simp only [saysNone_joined filled named, Bool.false_eq_true, if_false]
  obtain ⟨spec, others, rfl⟩ := List.exists_cons_of_ne_nil filled
  have parts := commaParts_joined (List.not_mem_nil) spec others
  have added := spec.addId_text (List.forall_mem_nil _) (List.not_mem_nil (a := spec.id))
  rw [List.nil_append] at parts
  rw [parts, List.foldl_cons, added]
  exact foldl_others distinct

theorem toList_specsLine (written : List WrittenSpec) :
    (specsLine written).toList = "- Affected specs: ".toList ++ (joinedSpecs written).toList :=
  String.toList_append

/-- The line is itself a trimmed text that begins with a dash. -/
theorem specsLine_ends {written : List WrittenSpec} (filled : written ≠ []) :
    '\n' ∉ (specsLine written).toList ∧
      trim (specsLine written).toList = (specsLine written).toList ∧
      ∃ rest, (specsLine written).toList = '-' :: rest := by
  obtain ⟨unbroken, -, front, d, ends, last⟩ := joinedSpecs_ends filled
  have dashed : "- Affected specs: ".toList = '-' :: " Affected specs: ".toList := by decide
  have begins : (specsLine written).toList =
      '-' :: (" Affected specs: ".toList ++ (joinedSpecs written).toList) := by
    rw [toList_specsLine, dashed, List.cons_append]
  have closes : (specsLine written).toList = ("- Affected specs: ".toList ++ front) ++ [d] := by
    rw [toList_specsLine, ends, List.append_assoc]
  refine ⟨?_, trim_of_ends begins closes (by decide) last, _, begins⟩
  rw [toList_specsLine]
  exact List.not_mem_append (by decide) unbroken

/-- Of a written list that is taken for a value together with its label the first spec is lost. -/
theorem specIdsOf_line {written : List WrittenSpec} (filled : written ≠ [])
    (distinct : (written.map (·.id)).Nodup) :
    specIdsOf (specsLine written).toList = (written.map (·.id)).tail := by
  have dashed : "- Affected specs: ".toList = '-' :: " Affected specs: ".toList := by decide
  have spaced : ' ' ∈ (specsLine written).toList := by
    rw [toList_specsLine]
    exact List.mem_append_left _ (by decide)
  unfold specIdsOf
  rw [(specsLine_ends filled).2.1]
  simp only [saysNone_of_mem (by decide) spaced (by decide), Bool.false_eq_true, if_false]
  obtain ⟨spec, others, rfl⟩ := List.exists_cons_of_ne_nil filled
  rw [toList_specsLine, commaParts_joined (by decide), List.foldl_cons, dashed, List.cons_append,
    addId_dash]
  exact foldl_others (List.nodup_cons.mp distinct).2

/-- A line that names specs holds them as its value. -/
theorem labelledValue?_specsLine {written : List WrittenSpec} (filled : written ≠ [])
    {later : List Char} (stops : ∀ c, later.head? = some c → c = '\n') :
    labelledValue? ((specsLine written).toList ++ later) = some (joinedSpecs written).toList := by
  obtain ⟨unbroken, ⟨c, rest, begins, visible⟩, -⟩ := joinedSpecs_ends filled
  have whole : (specsLine written).toList ++ later =
      "- Affected specs:".toList ++ ' ' :: ((joinedSpecs written).toList ++ later) := by
    have spaced : "- Affected specs: ".toList = "- Affected specs:".toList ++ [' '] := by decide
    rw [toList_specsLine, spaced]
    simp only [List.append_assoc, List.cons_append, List.nil_append]
  have start : dropBlank (' ' :: ((joinedSpecs written).toList ++ later)) =
      c :: (rest ++ later) := by
    rw [dropBlank_of_blank (by decide), begins]
    exact dropBlank_of_not_blank visible _
  have trimmed : trimEnd (joinedSpecs written).toList = (joinedSpecs written).toList := by
    rw [← trim_eq_trimEnd (begins ▸ dropBlank_of_not_blank visible rest)]
    exact trim_joinedSpecs filled
  have isLabel : IsSpecsLabel "- Affected specs:".toList :=
    isSpecsLabel_plain ['-'] [' '] (by decide) (List.all_iff_forall_prop.mp (by decide))
  rw [whole, labelledValue?_label isLabel (by simp), lineRemainder?, start]
  dsimp only
  rw [← List.cons_append, ← begins, upToNewline_ended unbroken stops, trimmed]
  rfl

/-- A proposal names each of its specs once and by an id that stands for a document, so the
documents of a plan can be listed.  Specs that are written on a line of their own are named in
that order, in whatever decoration, if nothing before names specs; but a label without a value
before the line takes the line as its value, and then the first spec is lost. -/
theorem named_specs_are_read (folder : ChangeFolder) (proposal : String) :
    (affectedSpecs proposal).Nodup ∧
    (∀ id ∈ affectedSpecs proposal, (Artifact.spec id).IsNamed) ∧
    ((folder.has .proposal = true → folder.read .proposal = .ok proposal) →
      ∃ artifacts, folder.required = .ok artifacts ∧ IsDocumentList artifacts) ∧
    ∀ (earlier later : String) (written : List WrittenSpec),
      proposal = earlier ++ specsLine written ++ later → written ≠ [] →
      (written.map (·.id)).Nodup →
      (∀ spec, written = [spec] → lowerCase spec.id.toList ≠ "none".toList) →
      endsLine earlier.toList = true → ¬NamesSpecs earlier.toList →
      (∀ c, later.toList.head? = some c → c = '\n') →
        (¬LeavesLabelOpen earlier.toList → affectedSpecs proposal = written.map (·.id)) ∧
        (LeavesLabelOpen earlier.toList →
          affectedSpecs proposal = (written.map (·.id)).tail) := by
  have known := affectedSpecs_specIds proposal
  refine ⟨known.distinct, fun id member => Artifact.isNamed_spec (known.valid id member),
    folder.required_isDocumentList, ?_⟩
  intro earlier later written line filled distinct named ends unnamed stops
  obtain ⟨unbroken, trimmed, rest, begins⟩ := specsLine_ends filled
  have own := labelledValue?_specsLine filled stops
  have whole : proposal.toList = earlier.toList ++ '-' :: (rest ++ later.toList) := by
    rw [line, String.toList_append, String.toList_append, begins, List.append_assoc,
      List.cons_append]
  rw [begins, List.cons_append] at own
  obtain ⟨closed, opened⟩ := specsValue?_line ends unnamed own
  unfold affectedSpecs
  rw [whole]
  constructor
  · intro notOpen
    rw [closed notOpen]
    exact specIdsOf_joined filled distinct named
  · intro isOpen
    have value : trimEnd (upToNewline ('-' :: (rest ++ later.toList))).1 =
        (specsLine written).toList := by
      rw [← List.cons_append, ← begins, upToNewline_ended unbroken stops,
        ← trim_eq_trimEnd (begins ▸ dropBlank_of_not_blank (by decide) rest), trimmed]
    rw [opened isOpen, value]
    exact specIdsOf_line filled distinct

/-! ### Proposals with a list and with an open label -/

namespace DecoratedSpecs

def auth : WrittenSpec where
  id := "auth"
  wrapping := .backticks
  spelled := ⟨'a', "uth".toList, by decide, rfl, List.all_iff_forall_prop.mp (by decide)⟩
  unended := by decide

def store : WrittenSpec where
  id := "session-store.v2"
  inFolder := true
  withEnding := true
  wrapping := .brackets
  spelled := ⟨'s', "ession-store.v2".toList, by decide, rfl,
    List.all_iff_forall_prop.mp (by decide)⟩
  unended := by decide

def md : WrittenSpec where
  id := "md"
  spelled := ⟨'m', "d".toList, by decide, rfl, List.all_iff_forall_prop.mp (by decide)⟩
  unended := by decide

/-- A label at the end of a text has no value. -/
theorem open_unnamed : ¬NamesSpecs "Affected specs:\n".toList := by
  rintro ⟨before, label, gap, c, after, whole, -, isLabel, -, visible⟩
  have least := length_label isLabel
  have total := congrArg List.length whole
  have sixteen : "Affected specs:\n".toList.length = 16 := by decide
  simp only [List.length_append, List.length_cons] at total
  obtain rfl : after = [] := List.eq_nil_of_length_eq_zero (by omega)
  have last := congrArg List.getLast? whole
  rw [← List.append_assoc, ← List.append_assoc, List.getLast?_concat] at last
  exact visible (Option.some.inj last).symm

/-- A list behind a heading. -/
def proposal : String :=
  "# Search\n\n- Affected specs: `auth`, [specs/session-store.v2.md], md\n- Risk: none"

/-- The list behind an open label. -/
def openProposal : String :=
  "Affected specs:\n- Affected specs: `auth`, [specs/session-store.v2.md], md"

/-- The folder of a change that has only its proposal. -/
def proposed (text : String) : ChangeFolder :=
  ⟨⟨"/", ["work"]⟩, [(Artifact.file .proposal, .file (.text text))]⟩

/-- Whatever stands around the ids, they are read in order, and the documents they stand for are
listed; but an open label before the line takes the line as its value. -/
theorem decorated_specs_are_read :
    (∃ artifacts, (proposed proposal).required = .ok artifacts ∧ IsDocumentList artifacts) ∧
      affectedSpecs proposal = ["auth", "session-store.v2", "md"] ∧
      affectedSpecs openProposal = ["session-store.v2", "md"] := by
  obtain ⟨-, -, documents, reads⟩ := named_specs_are_read (proposed proposal) proposal
  obtain ⟨-, -, -, readsOpen⟩ := named_specs_are_read (proposed openProposal) openProposal
  have short {text label gap before : List Char} (small : text.length < 15)
      (whole : text = before ++ (label ++ gap)) (isLabel : IsSpecsLabel label) : False := by
    have least := length_label isLabel
    have total := congrArg List.length whole
    simp only [List.length_append] at total
    omega
  have heading : "# Search\n\n".toList.length < 15 := by decide
  have unnamed : ¬NamesSpecs "# Search\n\n".toList := by
    rintro ⟨before, label, gap, c, after, whole, -, isLabel, -⟩
    exact short heading whole isLabel
  have unopened : ¬LeavesLabelOpen "# Search\n\n".toList := by
    rintro ⟨before, label, gap, whole, -, isLabel, -⟩
    exact short heading whole isLabel
  have opened : LeavesLabelOpen "Affected specs:\n".toList := by
    have parts : "Affected specs:\n".toList =
        [] ++ (([] ++ ([] ++ "Affected specs:".toList)) ++ ['\n']) := by decide
    exact ⟨[], _, ['\n'], parts, rfl, isSpecsLabel_plain [] [] (by decide) nofun,
      List.all_iff_forall_prop.mp (by decide)⟩
  have three : ∀ spec, [auth, store, md] = [spec] → lowerCase spec.id.toList ≠ "none".toList := by
    intro spec same
    cases (List.cons.inj same).2
  have line : proposal = "# Search\n\n" ++ specsLine [auth, store, md] ++ "\n- Risk: none" := by
    decide +kernel
  have openLine : openProposal = "Affected specs:\n" ++ specsLine [auth, store, md] ++ "" := by
    decide +kernel
  have plain : '\r' ∉ proposal.toList := by
    unfold proposal
    rw [String.toList_ofList]
    decide
  refine ⟨documents fun _ => Folder.read_of_plain rfl plain, ?_, ?_⟩
  · exact (reads _ _ _ line (by decide) (by decide) three (by decide) unnamed
      (fun _ first => (Option.some.inj first).symm)).1 unopened
  · exact (readsOpen _ _ _ openLine (by decide) (by decide) three (by decide) open_unnamed
      nofun).2 opened

/-- A list behind an open label is not read as it was written: its first spec is lost. -/
theorem open_label_takes_line :
    let earlier := "Affected specs:\n"
    endsLine earlier.toList = true ∧ ¬NamesSpecs earlier.toList ∧
      affectedSpecs (earlier ++ specsLine [auth, md]) = ["md"] ∧
      affectedSpecs (earlier ++ specsLine [auth, md]) ≠ [auth, md].map (·.id) := by
  have lost : affectedSpecs ("Affected specs:\n" ++ specsLine [auth, md]) = ["md"] := by
    decide +kernel
  refine ⟨by decide, open_unnamed, lost, ?_⟩
  rw [lost]
  decide

end DecoratedSpecs

end PlanCycle
