/-
Module: PlanCycle.Proofs.ReadBack
Purpose: What becomes of a review that was read, written down and read again: the verdict and the
  issues stay, but for an issue without a description or with an empty place.
Main exports:
  Text.OnLine, Issue.IsFoundIn, Issue.isFoundIn_of_issuesOf, Issue.IsWhole,
  Review.parse_render_parse
-/
import PlanCycle.Proofs.LastMarker

namespace PlanCycle

open Text Marker

/-! ### Closing tags in parts of a text -/

namespace Marker

theorem Unclosed.of_append {text after : List Char} (unclosed : Unclosed (text ++ after) []) :
    Unclosed text [] := by
  induction text with
  | nil => trivial
  | cons c text ih =>
      obtain ⟨here, later⟩ := unclosed
      refine ⟨?_, ih later⟩
      rw [List.append_nil] at here ⊢
      cases closed : closing? (c :: text) with
      | none => rfl
      | some rest =>
          have longer := closing?_append closed after
          exact absurd (longer.symm.trans here) (Option.some_ne_none _)

/-- A part of a text without a closing tag holds none either. -/
theorem untilClosing?_isInfix {part text : List Char} (unclosed : untilClosing? text = none)
    (inside : part <:+: text) : untilClosing? part = none := by
  obtain ⟨before, after, rfl⟩ := inside
  rw [← unclosed_iff] at unclosed ⊢
  rw [List.append_assoc] at unclosed
  exact (unclosed.suffix (List.suffix_append before _)).of_append

/-- What stands before the first closing tag holds none. -/
theorem untilClosing?_before {text body rest : List Char}
    (found : untilClosing? text = some (body, rest)) :
    body <+: text ∧ untilClosing? body = none := by
  induction text generalizing body with
  | nil => cases found
  | cons c text ih =>
      unfold untilClosing? at found
      cases here : closing? (c :: text) with
      | some after =>
          rw [here] at found
          cases found
          exact ⟨List.nil_prefix, rfl⟩
      | none =>
          rw [here] at found
          obtain ⟨⟨inner, after⟩, inside, same⟩ := Option.map_eq_some_iff.mp found
          cases same
          obtain ⟨⟨last, rfl⟩, unclosed⟩ := ih inside
          refine ⟨List.prefix_append (c :: inner) last, ?_⟩
          rw [← unclosed_iff] at unclosed ⊢
          have absent : closing? (c :: inner) = none := by
            cases closed : closing? (c :: inner) with
            | none => rfl
            | some after =>
                have longer := closing?_append closed last
                exact absurd (longer.symm.trans here) (Option.some_ne_none _)
          exact ⟨by rwa [List.append_nil], unclosed⟩

/-- The body of a marker holds no closing tag. -/
theorem unclosed_of_mem_all {text : List Char} {marker : Marker} (member : marker ∈ all text) :
    untilClosing? marker.body = none := by
  induction text using all.induct with
  | case1 text first rest found ih =>
      rw [all_of_complete found] at member
      rcases List.mem_cons.mp member with rfl | later
      · unfold complete? at found
        obtain ⟨⟨attributes, one⟩, -, found⟩ := Option.bind_eq_some_iff.mp found
        obtain ⟨⟨body, two⟩, closed, same⟩ := Option.bind_eq_some_iff.mp found
        cases same
        exact (untilClosing?_before closed).2
      · exact ih later
  | case2 =>
      rw [all_nil] at member
      cases member
  | case3 c text absent ih =>
      rw [all_of_incomplete absent] at member
      exact ih member

end Marker

/-! ### Values stand in the text that they are read from -/

namespace Text

/-- Whether a text stands in another one without running over a line feed. -/
structure OnLine (part text : List Char) : Prop where
  inside : part <:+: text
  unbroken : '\n' ∉ part

namespace OnLine

variable {part text : List Char}

theorem mono {longer : List Char} (stands : OnLine part text) (inside : text <:+: longer) :
    OnLine part longer :=
  ⟨stands.inside.trans inside, stands.unbroken⟩

theorem part_of {smaller : List Char} (stands : OnLine part text) (inside : smaller <:+: part) :
    OnLine smaller text :=
  ⟨inside.trans stands.inside, fun member => stands.unbroken (inside.mem member)⟩

end OnLine

theorem takeWhile_onLine (text : List Char) : OnLine (text.takeWhile (· != '\n')) text := by
  refine ⟨(List.takeWhile_prefix _).isInfix, fun member => ?_⟩
  have other := List.all_eq_true.mp List.all_takeWhile _ member
  revert other
  decide

theorem lineRemainder?_onLine {text value rest : List Char}
    (found : lineRemainder? text = some (value, rest)) : OnLine value text ∧ rest <:+ text := by
  unfold lineRemainder? at found
  split at found
  · obtain ⟨c, last, same⟩ := Option.map_eq_some_iff.mp found
    cases same
    have other : c ≠ '\n' := by
      have kept := List.find?_some last
      simpa using kept
    obtain ⟨before, after, rfl⟩ :=
      List.append_of_mem (List.mem_reverse.mp (List.mem_of_find?_eq_some last))
    refine ⟨⟨⟨before, after, by simp⟩, ?_⟩, List.nil_suffix⟩
    simpa using other.symm
  · rename_i c tail begins
    cases found
    have start : c :: tail <:+ text := begins ▸ dropBlank_suffix text
    refine ⟨((takeWhile_onLine (c :: tail)).part_of (trimEnd_isPrefix _).isInfix).mono start.isInfix,
      (List.dropWhile_suffix _).trans start⟩

theorem dropNumberSigns?_suffix {level : HeadingLevel} {text rest : List Char}
    (found : dropNumberSigns? level text = some rest) : rest <:+ text := by
  unfold dropNumberSigns? at found
  split at found
  · split at found
    · cases found
      exact List.drop_suffix _ _
    · cases found
  · cases found
    exact (List.dropWhile_suffix _).trans (List.suffix_cons _ _)
  · cases found

theorem heading?_onLine {level : HeadingLevel} {text title rest : List Char}
    (found : heading? level text = some (title, rest)) : OnLine title text ∧ rest <:+ text := by
  unfold heading? at found
  obtain ⟨signs, dropped, found⟩ := Option.bind_eq_some_iff.mp found
  have after := dropNumberSigns?_suffix dropped
  split at found
  · rename_i c tail
    split at found
    · obtain ⟨titled, last⟩ := lineRemainder?_onLine found
      have inside : tail <:+ text := (List.suffix_cons c tail).trans after
      exact ⟨titled.mono inside.isInfix, last.trans inside⟩
    · cases found
  · cases found

/-- The text before the first heading begins the text, and each title and the text under it stand
in it. -/
theorem sectionsFrom_inside (level : HeadingLevel) (lineStart : Bool) (text : List Char) :
    (sectionsFrom level lineStart text).lead <+: text ∧
      ∀ part ∈ (sectionsFrom level lineStart text).parts, OnLine part.1 text ∧ part.2 <:+: text := by
  fun_induction sectionsFrom level lineStart text with
  | case1 lineStart text title rest found below ih =>
      obtain ⟨lead, parts⟩ := ih
      have heading : heading? level text = some (title, rest) := by
        split at found
        · exact found
        · cases found
      obtain ⟨titled, last⟩ := heading?_onLine heading
      refine ⟨List.nil_prefix, List.forall_mem_cons.mpr
        ⟨⟨titled, lead.isInfix.trans last.isInfix⟩, fun part member => ?_⟩⟩
      obtain ⟨one, two⟩ := parts part member
      exact ⟨one.mono last.isInfix, two.trans last.isInfix⟩
  | case2 => exact ⟨List.nil_prefix, List.forall_mem_nil _⟩
  | case3 lineStart c rest absent later ih =>
      obtain ⟨lead, parts⟩ := ih
      have inside : rest <:+: c :: rest := (List.suffix_cons c rest).isInfix
      refine ⟨List.cons_prefix_cons.mpr ⟨rfl, lead⟩, fun part member => ?_⟩
      obtain ⟨one, two⟩ := parts part member
      exact ⟨one.mono inside, two.trans inside⟩

end Text

/-! ### What an issue that was read may say -/

/-- What is known of an issue that was read from a text: its description and its place stand on a
line of the text, its place has no blanks at its ends, and neither has its description, unless it
consists of blanks. -/
structure Issue.IsFoundIn (issue : Issue) (text : List Char) : Prop where
  description : OnLine issue.description.toList text
  trimmed : trim issue.description.toList = issue.description.toList ∨
    trim issue.description.toList = []
  location : ∀ place, issue.location = some place →
    OnLine place.toList text ∧ trim place.toList = place.toList

theorem Issue.IsFoundIn.mono {issue : Issue} {text longer : List Char}
    (found : issue.IsFoundIn text) (inside : text <:+: longer) : issue.IsFoundIn longer where
  description := found.description.mono inside
  trimmed := found.trimmed
  location place located :=
    ⟨(found.location place located).1.mono inside, (found.location place located).2⟩

namespace Finding

/-! ### Headed blocks -/

theorem fieldName?_suffix {text name rest : List Char}
    (found : fieldName? text = some (name, rest)) : rest <:+ text := by
  obtain ⟨word, -, named⟩ := List.exists_of_findSome?_eq_some found
  obtain ⟨after, dropped, same⟩ := Option.map_eq_some_iff.mp named
  cases same
  exact dropWord?_suffix dropped

theorem boldField?_onLine {text name value rest : List Char}
    (found : boldField? text = some ((name, value), rest)) : OnLine value text ∧ rest <:+ text := by
  unfold boldField? at found
  split at found
  · rename_i text
    obtain ⟨⟨title, one⟩, named, found⟩ := Option.bind_eq_some_iff.mp found
    have first := fieldName?_suffix named
    dsimp only at found
    split at found
    · rename_i two
      split at found
      · rename_i three blank
        obtain ⟨⟨stated, four⟩, valued, same⟩ := Option.bind_eq_some_iff.mp found
        cases same
        obtain ⟨stands, last⟩ := lineRemainder?_onLine valued
        have colon : three <:+ two :=
          (List.suffix_cons ':' three).trans (blank ▸ dropBlank_suffix two)
        have inside : three <:+ '*' :: '*' :: text :=
          ((colon.trans (List.suffix_append ['*', '*'] two)).trans first).trans
            (List.suffix_append ['*', '*'] text)
        exact ⟨stands.mono inside.isInfix, last.trans inside⟩
      · cases found
    · cases found
  · cases found

theorem field?_onLine {text name value rest : List Char}
    (found : field? text = some ((name, value), rest)) : OnLine value text ∧ rest <:+ text := by
  unfold field? at found
  split at found
  · cases found
  · rename_i c tail begins
    have start : c :: tail <:+ text := begins ▸ dropBlank_suffix text
    have bulleted : dropBlank tail <:+ text :=
      ((dropBlank_suffix tail).trans (List.suffix_cons c tail)).trans start
    have within {part : List Char} (inside : part <:+ text)
        (read : boldField? part = some ((name, value), rest)) : OnLine value text ∧ rest <:+ text :=
      ⟨(boldField?_onLine read).1.mono inside.isInfix, (boldField?_onLine read).2.trans inside⟩
    split at found
    · rw [Option.orElse_eq_orElse, Option.orElse_eq_or] at found
      rcases Option.or_eq_some_iff.mp found with found | ⟨-, found⟩
      · exact within bulleted found
      · exact within start found
    · exact within start found

theorem fieldsFrom_onLine (lineStart : Bool) (text : List Char) :
    ∀ field ∈ fieldsFrom lineStart text, OnLine field.2 text := by
  fun_induction fieldsFrom lineStart text with
  | case1 lineStart text field rest found ih =>
      have read : field? text = some ((field.1, field.2), rest) := by
        split at found
        · exact found
        · cases found
      obtain ⟨stands, last⟩ := field?_onLine read
      exact List.forall_mem_cons.mpr
        ⟨stands, fun other member => (ih other member).mono last.isInfix⟩
  | case2 => exact List.forall_mem_nil _
  | case3 lineStart c rest absent ih =>
      exact fun field member => (ih field member).mono (List.suffix_cons c rest).isInfix

/-- A value of a field is a trimmed part of a line of the block. -/
theorem value?_trimmed {block value : List Char} {name : String}
    (found : value? (fields block) name = some value) :
    OnLine value block ∧ trim value = value := by
  obtain ⟨field, last, rfl⟩ := Option.map_eq_some_iff.mp found
  have member : field ∈ fields block := List.mem_reverse.mp (List.mem_of_find?_eq_some last)
  obtain ⟨read, among, rfl⟩ := List.mem_map.mp member
  exact ⟨(fieldsFrom_onLine true block read among).part_of (trim_isInfix _), trim_trim _⟩

theorem isFoundIn_of_ofBlock {title block text : List Char} {issue : Issue}
    (found : ofBlock title block = some (.named issue)) (titled : OnLine title text)
    (inside : block <:+: text) : issue.IsFoundIn text := by
  have empty : OnLine [] block ∧ trim [] = [] := ⟨⟨List.nil_infix, List.not_mem_nil⟩, rfl⟩
  have named : OnLine ((value? (fields block) "description").getD []) block ∧
      trim ((value? (fields block) "description").getD []) =
        (value? (fields block) "description").getD [] := by
    cases described : value? (fields block) "description" with
    | none => exact empty
    | some value => exact value?_trimmed described
  unfold ofBlock at found
  dsimp only at found
  split at found
  · cases found
  · split at found
    · cases found
    · cases found
      refine ⟨?_, .inl ?_, fun place located => ?_⟩
      · rw [String.toList_ofList]
        split
        · exact titled.part_of (trim_isInfix title)
        · exact named.1.mono inside
      · rw [String.toList_ofList]
        split
        · exact trim_trim title
        · exact named.2
      · obtain ⟨value, placed, rfl⟩ := Option.map_eq_some_iff.mp located
        rw [String.toList_ofList]
        exact ⟨(value?_trimmed placed).1.mono inside, (value?_trimmed placed).2⟩

/-! ### List items -/

theorem dropColon_suffix (text : List Char) : dropColon text <:+ text := by
  unfold dropColon
  split
  · rename_i rest begins
    exact (dropBlank_suffix rest).trans
      ((List.suffix_cons ':' rest).trans (begins ▸ dropBlank_suffix text))
  · exact dropBlank_suffix text

theorem dropBlank_dropBlank (text : List Char) : dropBlank (dropBlank text) = dropBlank text := by
  cases begins : dropBlank text with
  | nil => rfl
  | cons c rest => exact dropBlank_of_not_blank (visible_of_dropBlank begins) rest

theorem dropBlank_dropColon (text : List Char) : dropBlank (dropColon text) = dropColon text := by
  unfold dropColon
  split
  · exact dropBlank_dropBlank _
  · exact dropBlank_dropBlank text

/-- Whether a text is left of another one: a part of it that is trimmed or else blank. -/
structure IsLeftOf (part text : List Char) : Prop where
  inside : part <:+: text
  trimmed : trim part = part ∨ trim part = []

theorem isLeftOf_trimEnd {text rest : List Char} (last : rest <:+ text)
    (begins : dropBlank rest = rest) : IsLeftOf (trimEnd rest) text := by
  refine ⟨(trimEnd_isPrefix rest).isInfix.trans last.isInfix, .inl ?_⟩
  rw [← trim_eq_trimEnd begins, trim_trim]

theorem isLeftOf_getLast {text rest : List Char} {c : Char} (last : rest <:+ text)
    (found : rest.getLast? = some c) : IsLeftOf [c] text := by
  obtain ⟨before, rfl⟩ := List.getLast?_eq_some_iff.mp found
  refine ⟨(List.suffix_append before [c]).isInfix.trans last.isInfix, ?_⟩
  cases blank : isBlank c with
  | true => exact .inr (trim_eq_nil_iff.mpr (List.forall_mem_singleton.mpr blank))
  | false => exact .inl (by simp [trim, trimOf, trimStartOf, trimEndOf, blank])

theorem itemDescription?_isLeftOf {text rest description : List Char} (last : rest <:+ text)
    (found : itemDescription? rest = some description) : IsLeftOf description text := by
  unfold itemDescription? at found
  split at found
  · obtain ⟨c, ends, rfl⟩ := Option.map_eq_some_iff.mp found
    exact isLeftOf_getLast last ends
  · cases found
    exact isLeftOf_trimEnd ((dropColon_suffix rest).trans last) (dropBlank_dropColon rest)

theorem item?_isLeftOf {line word description : List Char}
    (found : item? line = some (word, description)) : IsLeftOf description line := by
  have blanks {text rest : List Char} (begins : dropBlank text = rest) : rest <:+ text :=
    begins ▸ dropBlank_suffix text
  have letters {text rest : List Char} (after : text.dropWhile Char.isAlpha = rest) :
      rest <:+ text := after ▸ List.dropWhile_suffix _
  have described {rest : List Char} {word' : List Char} (last : rest <:+ line)
      (found : (if word'.isEmpty then none else (itemDescription? rest).map (word', ·)) =
        some (word, description)) : IsLeftOf description line := by
    split at found
    · cases found
    · obtain ⟨left, read, same⟩ := Option.map_eq_some_iff.mp found
      cases same
      exact itemDescription?_isLeftOf last read
  unfold item? at found
  split at found
  · rename_i bullet c tail begins
    have start : tail <:+ line := (List.suffix_append [bullet, c] tail).trans (blanks begins)
    split at found
    · split at found
      · rename_i rest bracket
        have inner : rest <:+ line :=
          ((List.suffix_cons '[' rest).trans (blanks bracket)).trans start
        dsimp only at found
        split at found
        · rename_i after closed
          exact described (((List.suffix_cons ']' after).trans (letters closed)).trans inner) found
        · cases found
      · rename_i rest bold
        have inner : rest <:+ line :=
          ((List.suffix_append ['*', '*'] rest).trans (blanks bold)).trans start
        dsimp only at found
        split at found
        · rename_i after closed
          exact described (((List.suffix_append ['*', '*'] after).trans (letters closed)).trans inner)
            found
        · cases found
      · have inner : dropBlank tail <:+ line := (dropBlank_suffix tail).trans start
        dsimp only at found
        split at found
        · rename_i after colon
          have outer : after <:+ line :=
            (((List.suffix_cons ':' after).trans (blanks colon)).trans (letters rfl)).trans inner
          split at found
          · cases found
          · split at found
            · obtain ⟨c, last, same⟩ := Option.map_eq_some_iff.mp found
              cases same
              exact isLeftOf_getLast outer last
            · cases found
              exact isLeftOf_trimEnd ((dropBlank_suffix after).trans outer) (dropBlank_dropBlank after)
        · cases found
    · cases found
  · cases found

theorem placeSuffix?_part {text place : List Char} (found : placeSuffix? text = some place) :
    place <:+: text ∧ trim place = place := by
  have labelled {text rest : List Char} (found : dropPlaceLabel? text = some rest) :
      rest <:+ text := by
    obtain ⟨word, named, found⟩ := Option.bind_eq_some_iff.mp found
    have inner : word <:+ text := by
      rw [Option.orElse_eq_orElse, Option.orElse_eq_or] at named
      rcases Option.or_eq_some_iff.mp named with named | ⟨-, named⟩
      · exact dropWord?_suffix named
      · exact dropWord?_suffix named
    split at found
    · rename_i after colon
      cases found
      exact ((List.suffix_cons ':' rest).trans (colon ▸ dropBlank_suffix word)).trans inner
    · cases found
  unfold placeSuffix? at found
  split at found
  · rename_i text
    obtain ⟨rest, label, found⟩ := Option.bind_eq_some_iff.mp found
    dsimp only at found
    split at found
    · split at found
      · cases found
      · cases found
        have inner : rest <:+ '(' :: text := (labelled label).trans (List.suffix_cons '(' text)
        exact ⟨(trim_isInfix _).trans ((List.takeWhile_prefix _).isInfix.trans inner.isInfix),
          trim_trim _⟩
    · cases found
  · cases found

theorem splitPlace_parts (text : List Char) :
    (splitPlace text).1 <+: text ∧
      ∀ place, (splitPlace text).2 = some place → place <:+: text ∧ trim place = place := by
  induction text with
  | nil => exact ⟨List.nil_prefix, nofun⟩
  | cons c text ih =>
      unfold splitPlace
      cases found : placeSuffix? (c :: text) with
      | some place =>
          refine ⟨List.nil_prefix, fun other same => ?_⟩
          cases same
          exact placeSuffix?_part found
      | none =>
          obtain ⟨before, later⟩ := ih
          exact ⟨List.cons_prefix_cons.mpr ⟨rfl, before⟩, fun place same =>
            ⟨(later place same).1.trans (List.suffix_cons c text).isInfix, (later place same).2⟩⟩

/-- What begins a trimmed text is trimmed once its end is. -/
theorem IsLeftOf.trimEnd_isPrefix {part text before : List Char} (left : IsLeftOf part text)
    (start : before <+: part) : IsLeftOf (trimEnd before) text := by
  have shorter : trimEnd before <+: part := (Text.trimEnd_isPrefix before).trans start
  refine ⟨shorter.isInfix.trans left.inside, ?_⟩
  rcases left.trimmed with same | blank
  · left
    cases before with
    | nil => rfl
    | cons c rest =>
        obtain ⟨last, whole⟩ := start
        have visible : isBlank c = false := visible_of_trim (same.trans whole.symm)
        rw [← trim_eq_trimEnd (dropBlank_of_not_blank visible rest), trim_trim]
  · right
    exact trim_eq_nil_iff.mpr fun c member => trim_eq_nil_iff.mp blank c (shorter.subset member)

theorem isFoundIn_of_ofLine {line text : List Char} {issue : Issue}
    (found : ofLine line = some (.named issue)) (stands : OnLine line text) :
    issue.IsFoundIn text := by
  unfold ofLine at found
  obtain ⟨⟨word, description⟩, item, found⟩ := Option.bind_eq_some_iff.mp found
  have left := item?_isLeftOf item
  have parts := splitPlace_parts description
  dsimp only at found
  split at found
  · cases found
  · split at found
    · cases found
    · split at found
      · cases found
        refine ⟨?_, ?_, nofun⟩
        · rw [String.toList_ofList]
          exact stands.part_of left.inside
        · rw [String.toList_ofList]
          exact left.trimmed
      · rename_i before place split
        cases found
        rw [split] at parts
        obtain ⟨start, located⟩ := parts
        have shorter := left.trimEnd_isPrefix start
        refine ⟨?_, ?_, fun other same => ?_⟩
        · rw [String.toList_ofList]
          exact stands.part_of shorter.inside
        · rw [String.toList_ofList]
          exact shorter.trimmed
        · cases same
          rw [String.toList_ofList]
          exact ⟨stands.part_of ((located place rfl).1.trans left.inside), (located place rfl).2⟩

end Finding

/-! ### The issues of a body -/

theorem issueScope_isInfix (body : List Char) : issueScope body <:+: body := by
  unfold issueScope
  dsimp only
  cases chosen : (sections (.exactly 2) body).parts.find? fun part =>
    lowerCase (trim part.1) == "issues".toList with
  | none => exact List.infix_rfl
  | some part =>
      exact ((sectionsFrom_inside (.exactly 2) true body).2 part
        (List.mem_of_find?_eq_some chosen)).2

/-- The issues of a body are found in it. -/
theorem Issue.isFoundIn_of_issuesOf {body : List Char} :
    ∀ issue ∈ issuesOf body, issue.IsFoundIn body := by
  intro issue member
  obtain ⟨finding, among, named⟩ := List.mem_filterMap.mp member
  obtain rfl : finding = .named issue := by
    cases finding with
    | named other =>
        cases named
        rfl
    | dropped text => cases named
  apply Issue.IsFoundIn.mono ?_ (issueScope_isInfix body)
  unfold findings at among
  split at among
  · obtain ⟨line, cut, read⟩ := List.mem_filterMap.mp among
    obtain ⟨inside, isLine⟩ := mem_splitLines cut
    exact Finding.isFoundIn_of_ofLine read ⟨inside, isLine.newline_not_mem⟩
  · obtain ⟨part, headed, read⟩ := List.mem_filterMap.mp among
    obtain ⟨titled, inside⟩ := (sectionsFrom_inside (.exactly 3) true _).2 part headed
    exact Finding.isFoundIn_of_ofBlock read titled inside

/-! ### Which issues are read back -/

/-- Whether an issue has a description that is not blank and, if it has a place, one that is not
empty. -/
structure Issue.IsWhole (issue : Issue) : Prop where
  described : trim issue.description.toList ≠ []
  placed : issue.location ≠ some ""

/-- An issue that was found in a text without a closing tag can be written down. -/
theorem Issue.IsFoundIn.fits {issue : Issue} {text : List Char} (found : issue.IsFoundIn text)
    (unclosed : untilClosing? text = none) : issue.Fits where
  description :=
    ⟨found.description.unbroken, untilClosing?_isInfix unclosed found.description.inside⟩
  location place located :=
    ⟨(found.location place located).1.unbroken,
      untilClosing?_isInfix unclosed (found.location place located).1.inside⟩

/-- A written issue is never read without a description. -/
theorem Issue.visible_reread (issue : Issue) (number : Nat) :
    trim (issue.reread number).description.toList ≠ [] := by
  have trimmed : trim issue.describedAs = issue.describedAs := by
    unfold describedAs
    split
    · cases issue.place? with
      | none => rfl
      | some place => exact trim_trim _
    · exact trim_trim _
  unfold reread
  rw [String.toList_ofList]
  split
  · rw [(isValue_title number).trimmed]
    exact (isValue_title number).nonempty
  · rename_i described
    rwa [trimmed]

/-- An issue that was found in a text is read back exactly if it is whole. -/
theorem Issue.IsFoundIn.reread_eq_iff {issue : Issue} {text : List Char}
    (found : issue.IsFoundIn text) (number : Nat) :
    issue.reread number = issue ↔ issue.IsWhole := by
  constructor
  · intro same
    refine ⟨same ▸ issue.visible_reread number, fun empty => ?_⟩
    have unplaced : issue.placedAt = none := by
      unfold placedAt place?
      rw [empty]
      split
      · rfl
      · rfl
    have lost : (issue.reread number).location = none := congrArg (Option.map String.ofList) unplaced
    rw [same, empty] at lost
    cases lost
  · rintro ⟨described, placed⟩
    have trimmed := found.trimmed.resolve_right described
    refine Issue.reread_eq ⟨trimmed, trimmed ▸ described⟩ (fun place located => ?_) number
    refine ⟨(found.location place located).2, fun empty => placed ?_⟩
    rw [located, String.toList_eq_nil_iff.mp empty]

theorem Issue.rereadFrom_eq_iff {issues : List Issue} {text : List Char}
    (found : ∀ issue ∈ issues, issue.IsFoundIn text) (number : Nat) :
    rereadFrom number issues = issues ↔ ∀ issue ∈ issues, issue.IsWhole := by
  induction issues generalizing number with
  | nil => exact ⟨fun _ => List.forall_mem_nil _, fun _ => rfl⟩
  | cons issue issues ih =>
      obtain ⟨here, others⟩ := List.forall_mem_cons.mp found
      rw [rereadFrom, List.cons.injEq, here.reread_eq_iff number, ih others, List.forall_mem_cons]

/-! ### A review that is read, written and read again -/

/-- The marker of a written review with a verdict is read as that verdict. -/
theorem Marker.verdict_of_decided {verdict : Verdict} (decided : verdict ≠ .unknown)
    (iteration : Option Int) (reviewer : Option String) (body : List Char) :
    Marker.verdict ⟨' ' :: Review.attributes verdict iteration reviewer, body⟩ = verdict := by
  unfold Marker.verdict
  rw [status?_written, Option.map_some, Option.getD_some, Verdict.ofKeyword_word]
  cases verdict with
  | unknown => exact absurd rfl decided
  | approved => rfl
  | needsRevision => rfl
  | rejected => rfl

/-- A written review with a verdict is read as that verdict and the issues that can be read
back. -/
theorem Review.parse_render {review : Review} (decided : review.verdict ≠ .unknown)
    (fits : ∀ issue ∈ review.issues, issue.Fits) (iteration : Option Int) {reviewer : Option String}
    (bounded : ∀ name, reviewer = some name → '>' ∉ name.toList) :
    (Review.parse (review.render iteration reviewer)).verdict = review.verdict ∧
      (Review.parse (review.render iteration reviewer)).issues =
        Issue.rereadFrom 1 review.issues := by
  let written : WrittenReview := ⟨review, iteration, reviewer⟩
  have ending : '>' ∉ attributes review.verdict iteration reviewer :=
    written.bounded_attributes bounded
  have found := complete?_tagged ending (unclosed_body fits (closingTag ++ []))
  have markers : Marker.all (review.render iteration reviewer).toList =
      [⟨' ' :: attributes review.verdict iteration reviewer, ended review.bodyLines⟩] := by
    rw [List.append_nil] at found
    rw [toList_render_tagged, all_of_complete found, all_nil]
  obtain ⟨verdict, issues⟩ := Review.parse_of_last (congrArg List.getLast? markers)
  exact ⟨verdict.trans (verdict_of_decided decided iteration reviewer _),
    issues.trans (issuesOf_body fits)⟩

/-- The issues of a review that was read are found in a text without a closing tag. -/
theorem Review.exists_isFoundIn (text : String) :
    ∃ body, untilClosing? body = none ∧
      ∀ issue ∈ (Review.parse text).issues, issue.IsFoundIn body := by
  unfold Review.parse Review.ofChars
  cases last : (Marker.all text.toList).getLast? with
  | none => exact ⟨[], rfl, List.forall_mem_nil _⟩
  | some marker =>
      exact ⟨marker.body, unclosed_of_mem_all (List.mem_of_getLast? last),
        Issue.isFoundIn_of_issuesOf⟩

/-- **What was counted is what is written down.**  A review that was read from an answer, written
down and read again has its verdict, and each of its issues as far as it can be read back: all its
issues, exactly if each has a description that is not blank and no empty place. -/
theorem Review.parse_render_parse {text : String} (decided : (Review.parse text).verdict ≠ .unknown)
    (iteration : Option Int) {reviewer : Option String}
    (bounded : ∀ name, reviewer = some name → '>' ∉ name.toList) :
    let counted := Review.parse text
    let reread := Review.parse (counted.render iteration reviewer)
    reread.verdict = counted.verdict ∧
      reread.issues = Issue.rereadFrom 1 counted.issues ∧
      (reread.issues = counted.issues ↔ ∀ issue ∈ counted.issues, issue.IsWhole) := by
  obtain ⟨body, unclosed, found⟩ := Review.exists_isFoundIn text
  obtain ⟨verdict, issues⟩ := Review.parse_render decided
    (fun issue among => (found issue among).fits unclosed) iteration bounded
  refine ⟨verdict, issues, ?_⟩
  rw [issues, Issue.rereadFrom_eq_iff found]

/-- List items of both spellings, one with a place, are read back from the headed blocks as which
they are written. -/
theorem Review.parse_render_items :
    let counted := Review.parse
      "<review status=\"rejected\">\n- [HIGH] Unsafe (location: a.md)\n* low: typo\n</review>"
    counted.verdict ≠ .unknown ∧ (∀ name, some "codex" = some name → '>' ∉ name.toList) ∧
      (Review.parse (counted.render (some 2) (some "codex"))).issues =
        [⟨.high, "Unsafe", some "a.md"⟩, ⟨.low, "typo", none⟩] := by
  intro counted
  have read : counted.verdict ≠ .unknown ∧
      counted.issues = [⟨.high, "Unsafe", some "a.md"⟩, ⟨.low, "typo", none⟩] := by
    -- the answer by its characters, which spares decoding its text
    unfold counted Review.parse
    rw [String.toList_ofList]
    decide +kernel
  obtain ⟨decided, issues⟩ := read
  have bounded : ∀ name, some "codex" = some name → '>' ∉ name.toList := by
    rintro _ ⟨⟩
    decide
  have whole : ∀ issue ∈ counted.issues, issue.IsWhole := by
    rw [issues, List.forall_mem_cons, List.forall_mem_singleton]
    exact ⟨⟨by decide, by decide⟩, by decide, by decide⟩
  exact ⟨decided, bounded, ((Review.parse_render_parse decided (some 2) bounded).2.2.mpr whole).trans
    issues⟩

/-- An objection that is known by its place alone is read back with the line of the place for its
description, and without the place. -/
theorem Review.bare_place_becomes_description :
    let counted := Review.parse
      "<review status=\"needs_revision\">\n- [HIGH] (location: a.md)\n</review>"
    counted.verdict = .needsRevision ∧ counted.isConsistent = true ∧
      counted.issues = [⟨.high, "", some "a.md"⟩] ∧
      (Review.parse counted.render).issues = [⟨.high, "- **Location**: a.md", none⟩] := by
  intro counted
  have read : counted.verdict = .needsRevision ∧ counted.isConsistent = true ∧
      counted.issues = [⟨.high, "", some "a.md"⟩] := by
    unfold counted Review.parse
    rw [String.toList_ofList]
    decide +kernel
  obtain ⟨verdict, consistent, issues⟩ := read
  have decided : counted.verdict ≠ .unknown := by rw [verdict]; decide
  have fits : ∀ issue ∈ counted.issues, issue.Fits := by
    rw [issues, List.forall_mem_singleton]
    refine ⟨⟨by decide, by decide⟩, fun place located => ?_⟩
    obtain rfl := Option.some.inj located
    exact ⟨by decide, by decide⟩
  have unnamed : ∀ name, (none : Option String) = some name → '>' ∉ name.toList := nofun
  have reread := (Review.parse_render decided fits none unnamed).2
  refine ⟨verdict, consistent, issues, ?_⟩
  rw [reread, issues]
  decide +kernel

end PlanCycle
