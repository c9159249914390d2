/-
Module: PlanCycle.Proofs.LastMarker
Purpose: Which marker of an answer is read: a review that is written after other text is the one
  that is read, if that text leaves no opening tag open; an opening tag that is left open takes the
  text of the next marker into its own.
Main exports:
  Marker.opens, Marker.pending?, Marker.complete?_append, Marker.all_append_of_settled,
  WrittenReview.last_of_settled, Review.parse_after_settled
-/
import PlanCycle.Proofs.WrittenReview

namespace PlanCycle

open Text Marker

namespace Marker

/-! ### Opening tags that are left open -/

/-- Whether an opening tag begins a text: its bracket and its name stand there, ended or not. -/
def opens : List Char → Bool
  | '<' :: rest => ((dropWord? "review".toList (dropBlank rest)).map endsWord).getD false
  | _ => false

/-- A text from the first opening tag on that no closing tag in it belongs to. -/
def pending? (text : List Char) : Option (List Char) :=
  match _found : complete? text with
  | some (_, rest) => pending? rest
  | none =>
    match text with
    | [] => none
    | c :: rest => if opens (c :: rest) then some (c :: rest) else pending? rest
termination_by text.length
decreasing_by
  · exact length_complete? _found
  · simp

/-! ### Tags in a longer text -/

theorem dropMark?_append {mark : Char} {text rest : List Char}
    (found : dropMark? mark text = some rest) (more : List Char) :
    dropMark? mark (text ++ more) = some (rest ++ more) := by
  unfold dropMark? at found ⊢
  cases start : dropBlank text with
  | nil =>
      rw [start] at found
      cases found
  | cons c tail =>
      rw [start] at found
      rw [dropBlank_append_of_visible start]
      dsimp only [List.cons_append] at found ⊢
      split at found
      · cases found
        rename_i same
        rw [if_pos same]
      · cases found

/-- A mark is not looked for behind a tag that begins. -/
theorem dropMark?_tag {mark : Char} (other : mark ≠ '<') (text rest : List Char) :
    dropMark? mark (text ++ '<' :: rest) = (dropMark? mark text).map (· ++ '<' :: rest) := by
  unfold dropMark?
  cases start : dropBlank text with
  | nil =>
      rw [dropBlank_append_of_blank start, dropBlank_of_not_blank (by decide)]
      simp [Ne.symm other]
  | cons c tail =>
      rw [dropBlank_append_of_visible start]
      dsimp only [List.cons_append]
      split
      · rfl
      · rfl

/-- The name of a tag is not looked for behind another tag that begins. -/
theorem dropName?_tag (text rest : List Char) :
    dropWord? "review".toList (dropBlank (text ++ '<' :: rest)) =
      (dropWord? "review".toList (dropBlank text)).map (· ++ '<' :: rest) := by
  cases start : dropBlank text with
  | nil =>
      rw [dropBlank_append_of_blank start, dropBlank_of_not_blank (by decide)]
      rfl
  | cons c tail =>
      rw [dropBlank_append_of_visible start]
      exact dropWord?_break (by decide) (c :: tail) rest

theorem dropName?_append {text rest : List Char}
    (found : dropWord? "review".toList (dropBlank text) = some rest) (more : List Char) :
    dropWord? "review".toList (dropBlank (text ++ more)) = some (rest ++ more) := by
  cases start : dropBlank text with
  | nil =>
      rw [start] at found
      cases found
  | cons c tail =>
      rw [start] at found
      rw [dropBlank_append_of_visible start]
      exact dropWord?_append found more

/-- A closing tag is read alike in a longer text. -/
theorem closing?_append {text rest : List Char} (found : closing? text = some rest)
    (more : List Char) : closing? (text ++ more) = some (rest ++ more) := by
  cases text with
  | nil => cases found
  | cons c text =>
      by_cases tag : c = '<'
      · subst tag
        rw [closing?_tag] at found
        obtain ⟨one, slash, found⟩ := Option.bind_eq_some_iff.mp found
        obtain ⟨two, name, close⟩ := Option.bind_eq_some_iff.mp found
        rw [List.cons_append, closing?_tag, dropMark?_append slash, Option.bind_some,
          dropName?_append name, Option.bind_some, dropMark?_append close]
      · rw [closing?_of_untagged tag] at found
        cases found

/-- A closing tag does not run over another tag that begins. -/
theorem closing?_before_tag (c : Char) (text rest : List Char) :
    closing? (c :: text ++ '<' :: rest) = (closing? (c :: text)).map (· ++ '<' :: rest) := by
  by_cases tag : c = '<'
  · subst tag
    rw [List.cons_append, closing?_tag, closing?_tag, dropMark?_tag (by decide)]
    cases dropMark? '/' text with
    | none => rfl
    | some one =>
        simp only [Option.map_some, Option.bind_some, dropName?_tag]
        cases dropWord? "review".toList (dropBlank one) with
        | none => rfl
        | some two => exact dropMark?_tag (by decide) two rest
  · rw [List.cons_append, closing?_of_untagged tag, closing?_of_untagged tag]
    rfl

/-- Where a closing tag is found, a tag begins. -/
theorem tag_mem_of_untilClosing? {text rest body : List Char}
    (found : untilClosing? text = some (body, rest)) : '<' ∈ text := by
  by_cases tagged : '<' ∈ text
  · exact tagged
  · have unclosed := (unclosed_iff text).mp (unclosed_of_untagged tagged [])
    rw [found] at unclosed
    cases unclosed

/-- The first closing tag stays the first one in a longer text. -/
theorem untilClosing?_longer {text body rest : List Char}
    (found : untilClosing? text = some (body, rest)) (more : List Char) :
    untilClosing? (text ++ more) = some (body, rest ++ more) := by
  induction text generalizing body with
  | nil => cases found
  | cons c text ih =>
      unfold untilClosing? at found
      rw [List.cons_append, untilClosing?]
      cases here : closing? (c :: text) with
      | some after =>
          rw [here] at found
          cases found
          rw [← List.cons_append, closing?_append here]
      | none =>
          rw [here] at found
          obtain ⟨⟨inner, after⟩, inside, same⟩ := Option.map_eq_some_iff.mp found
          cases same
          -- A tag begins in the rest, so that what is longer makes no closing tag here.
          obtain ⟨front, back, split⟩ := List.append_of_mem (tag_mem_of_untilClosing? inside)
          have absent : closing? (c :: (text ++ more)) = none := by
            have within : closing? (c :: front) = none := by
              rw [split, ← List.cons_append, closing?_before_tag, Option.map_eq_none_iff] at here
              exact here
            rw [split, List.append_assoc, List.cons_append, ← List.cons_append,
              closing?_before_tag, within]
            rfl
          rw [absent]
          dsimp only
          rw [ih inside]
          rfl

theorem opening?_append {text attributes rest : List Char}
    (found : opening? text = some (attributes, rest)) (more : List Char) :
    opening? (text ++ more) = some (attributes, rest ++ more) := by
  unfold opening? at found
  split at found
  · rename_i tail
    obtain ⟨one, name, found⟩ := Option.bind_eq_some_iff.mp found
    split at found
    · rename_i mark after ended
      obtain ⟨word, same⟩ := Option.ite_none_right_eq_some.mp found
      obtain ⟨rfl, rfl⟩ := Prod.mk.inj (Option.some.inj same)
      have dropped : (one ++ more).dropWhile (· != '>') = mark :: (after ++ more) := by
        rw [List.dropWhile_append, ended]
        rfl
      have taken : (one ++ more).takeWhile (· != '>') = one.takeWhile (· != '>') := by
        rw [List.takeWhile_append]
        have shorter : (one.takeWhile (· != '>')).length ≠ one.length := by
          intro whole
          have parts := congrArg List.length (List.takeWhile_append_dropWhile (p := (· != '>'))
            (l := one))
          rw [List.length_append, whole, ended] at parts
          simp at parts
        rw [if_neg shorter]
      have apart : endsWord (one ++ more) = true := by
        cases one with
        | nil => cases ended
        | cons d one => exact word
      rw [List.cons_append]
      unfold opening?
      simp only [Option.bind_eq_bind, dropName?_append name, Option.bind_some, dropped, taken,
        apart, if_true]
    · cases found
  · cases found

/-- A marker is read alike in a longer text. -/
theorem complete?_append {text rest : List Char} {marker : Marker}
    (found : complete? text = some (marker, rest)) (more : List Char) :
    complete? (text ++ more) = some (marker, rest ++ more) := by
  unfold complete? at found ⊢
  obtain ⟨⟨attributes, one⟩, opened, found⟩ := Option.bind_eq_some_iff.mp found
  obtain ⟨⟨body, two⟩, closed, same⟩ := Option.bind_eq_some_iff.mp found
  cases same
  simp only [Option.bind_eq_bind, opening?_append opened, Option.bind_some,
    untilClosing?_longer closed]

/-- Where no opening tag begins, none is read. -/
theorem opening?_of_not_opens {text : List Char} (plain : opens text = false) :
    opening? text = none := by
  unfold opening?
  split
  · rename_i rest
    cases name : dropWord? "review".toList (dropBlank rest) with
    | none => rfl
    | some after =>
        have apart : endsWord after = false := by
          simp only [opens, name, Option.map_some, Option.getD_some] at plain
          exact plain
        simp only [Option.bind_eq_bind, Option.bind_some, apart, Bool.false_eq_true, if_false]
        split
        · rfl
        · rfl
  · rfl

theorem opens_of_untagged {c : Char} (untagged : c ≠ '<') (text : List Char) :
    opens (c :: text) = false := by
  unfold opens
  split
  · rename_i same
    exact absurd (List.cons.inj same).1 untagged
  · rfl

/-- Whether an opening tag begins does not depend on another tag that follows. -/
theorem opens_before_tag (c : Char) (text rest : List Char) :
    opens (c :: text ++ '<' :: rest) = opens (c :: text) := by
  by_cases tag : c = '<'
  · subst tag
    simp only [List.cons_append, opens, dropName?_tag]
    cases dropWord? "review".toList (dropBlank text) with
    | none => rfl
    | some after =>
        cases after with
        | nil => rfl
        | cons d after => rfl
  · rw [List.cons_append, opens_of_untagged tag, opens_of_untagged tag]

/-- Whether an opening tag begins does not depend on a line after which something else begins. -/
theorem opens_break {rest : List Char} (afresh : BeginsAfresh rest) (c : Char) (text : List Char) :
    opens (c :: text ++ '\n' :: rest) = opens (c :: text) := by
  by_cases tag : c = '<'
  · subst tag
    simp only [List.cons_append, opens, dropName?_break afresh]
    cases dropWord? "review".toList (dropBlank text) with
    | none => rfl
    | some after =>
        cases after with
        | nil => rfl
        | cons d after => rfl
  · rw [List.cons_append, opens_of_untagged tag, opens_of_untagged tag]

theorem incomplete_of_not_opens {text : List Char} (plain : opens text = false) :
    complete? text = none := by
  unfold complete?
  rw [opening?_of_not_opens plain]
  rfl

/-! ### All markers of a longer text -/

theorem all_of_incomplete {c : Char} {text : List Char}
    (incomplete : complete? (c :: text) = none) :
    all (c :: text) = all text := by
  rw [all]
  split
  · rename_i found
    rw [incomplete] at found
    cases found
  · rfl

theorem pending?_of_complete {text rest : List Char} {marker : Marker}
    (found : complete? text = some (marker, rest)) : pending? text = pending? rest := by
  rw [pending?]
  split
  · rename_i other same
    rw [found] at same
    cases same
    rfl
  · rename_i absent
    rw [found] at absent
    cases absent

theorem pending?_of_incomplete {c : Char} {text : List Char}
    (incomplete : complete? (c :: text) = none) :
    pending? (c :: text) = if opens (c :: text) then some (c :: text) else pending? text := by
  rw [pending?]
  split
  · rename_i found
    rw [incomplete] at found
    cases found
  · rfl

/-- The markers of a text that leaves no opening tag open, and those that follow it, are all. -/
theorem all_append_of_settled {text : List Char} (settled : pending? text = none)
    (rest : List Char) : all (text ++ '<' :: rest) = all text ++ all ('<' :: rest) := by
  -- Read like the text itself: marker by marker, and otherwise character by character.
  induction text using pending?.induct with
  | case1 text marker after found ih =>
      rw [pending?_of_complete found] at settled
      rw [all_of_complete found, all_of_complete (complete?_append found _), ih settled,
        List.cons_append]
  | case2 => rw [all_nil, List.nil_append, List.nil_append]
  | case3 c text absent begins =>
      rw [pending?_of_incomplete absent, if_pos begins] at settled
      cases settled
  | case4 c text absent plain ih =>
      have plain : opens (c :: text) = false := Bool.eq_false_iff.mpr plain
      have incomplete : complete? (c :: text ++ '<' :: rest) = none :=
        incomplete_of_not_opens ((opens_before_tag c text rest).trans plain)
      rw [pending?_of_incomplete absent, plain] at settled
      rw [List.cons_append] at incomplete ⊢
      rw [all_of_incomplete incomplete, all_of_incomplete absent, ih settled]

/-- A text without a tag has no part in what is left open. -/
theorem pending?_append_of_untagged {text : List Char} (untagged : '<' ∉ text) (rest : List Char) :
    pending? (text ++ rest) = pending? rest := by
  induction text with
  | nil => rfl
  | cons c text ih =>
      have plain : opens (c :: (text ++ rest)) = false :=
        opens_of_untagged (fun same => untagged (same ▸ List.mem_cons_self)) _
      rw [List.cons_append, pending?_of_incomplete (incomplete_of_not_opens plain), plain,
        ih fun member => untagged (List.mem_cons_of_mem c member)]
      rfl

/-- Behind a text that leaves no opening tag open, only what begins on a new line may leave one
open. -/
theorem pending?_append_newline {text rest : List Char} (settled : pending? text = none)
    (afresh : BeginsAfresh rest) : pending? (text ++ '\n' :: rest) = pending? rest := by
  induction text using pending?.induct with
  | case1 text marker after found ih =>
      rw [pending?_of_complete found] at settled
      rw [pending?_of_complete (complete?_append found _), ih settled]
  | case2 => exact pending?_append_of_untagged (by decide : '<' ∉ ['\n']) rest
  | case3 c text absent begins =>
      rw [pending?_of_incomplete absent, if_pos begins] at settled
      cases settled
  | case4 c text absent plain ih =>
      have plain : opens (c :: text) = false := Bool.eq_false_iff.mpr plain
      have longer : opens (c :: text ++ '\n' :: rest) = false :=
        (opens_break afresh c text).trans plain
      rw [pending?_of_incomplete absent, plain] at settled
      rw [List.cons_append] at longer ⊢
      rw [pending?_of_incomplete (incomplete_of_not_opens longer), longer]
      exact ih settled

/-- What follows an opening tag is an end of the text. -/
theorem opening?_suffix {text attributes rest : List Char}
    (found : opening? text = some (attributes, rest)) : rest <:+ text := by
  unfold opening? at found
  split at found
  · rename_i tail
    obtain ⟨one, name, found⟩ := Option.bind_eq_some_iff.mp found
    have inside : one <:+ '<' :: tail :=
      ((dropWord?_suffix name).trans (List.dropWhile_suffix _)).trans (List.suffix_cons _ tail)
    split at found
    · rename_i mark after ended
      obtain ⟨_, same⟩ := Option.ite_none_right_eq_some.mp found
      obtain ⟨rfl, rfl⟩ := Prod.mk.inj (Option.some.inj same)
      have last : mark :: after <:+ one := ended ▸ List.dropWhile_suffix _
      exact ((List.suffix_cons mark after).trans last).trans inside
    · cases found
  · cases found

theorem Unclosed.suffix {text rest : List Char} (unclosed : Unclosed text [])
    (last : rest <:+ text) : Unclosed rest [] := by
  obtain ⟨front, rfl⟩ := last
  induction front with
  | nil => exact unclosed
  | cons c front ih => exact ih unclosed.2

/-- A text in which no closing tag begins holds no marker. -/
theorem all_of_unclosed {text : List Char} (unclosed : Unclosed text []) : all text = [] := by
  induction text with
  | nil => exact all_nil
  | cons c text ih =>
      have incomplete : complete? (c :: text) = none := by
        unfold complete?
        cases opened : opening? (c :: text) with
        | none => rfl
        | some found =>
            have absent := (unclosed_iff _).mp (unclosed.suffix (opening?_suffix opened))
            simp only [Option.bind_eq_bind, Option.bind_some, absent, Option.bind_none]
      rw [all_of_incomplete incomplete, ih unclosed.2]

end Marker

/-! ### A review behind other text -/

theorem Review.toList_render_tagged (review : Review) (iteration : Option Int)
    (reviewer : Option String) :
    (review.render iteration reviewer).toList =
      tagged (attributes review.verdict iteration reviewer) (ended review.bodyLines) := by
  have whole := review.toList_render iteration reviewer
  rw [String.toList_append] at whole
  exact List.append_cancel_right whole

/-- A written review is the last marker of a text, if the text before it leaves no opening tag open
and no closing tag follows. -/
theorem WrittenReview.last_of_settled {written : WrittenReview} (readable : written.IsReadable)
    {before after : List Char} (settled : pending? before = none)
    (unclosed : untilClosing? after = none) :
    (all (before ++ ((written.review.render written.iteration written.reviewer).toList ++
      after))).getLast? = some written.marker := by
  let attributes := Review.attributes written.review.verdict written.iteration written.reviewer
  let block := tagged attributes (ended written.review.bodyLines)
  have found : complete? (block ++ after) = some (written.marker, after) :=
    complete?_tagged (bounded_attributes readable.bounded) (Review.unclosed_body readable.fits _)
  obtain ⟨rest, begins⟩ : ∃ rest, block ++ after = '<' :: rest := ⟨_, rfl⟩
  have markers : all (before ++ (block ++ after)) = all before ++ [written.marker] := by
    rw [begins, all_append_of_settled settled, ← begins, all_of_complete found,
      all_of_unclosed ((unclosed_iff after).mpr unclosed)]
  rw [Review.toList_render_tagged, markers, List.getLast?_concat]

/-- A written review is read wherever it stands last: behind any text that leaves no opening tag
open, and before any text without a closing tag. -/
theorem Review.parse_after_settled {written : WrittenReview} (readable : written.IsReadable)
    {before after : String} (settled : pending? before.toList = none)
    (unclosed : untilClosing? after.toList = none) :
    let read := Review.parse
      (before ++ written.review.render written.iteration written.reviewer ++ after)
    read.verdict = written.review.verdict ∧ read.issues = written.review.issues := by
  apply WrittenReview.parse_of_marker readable
  rw [String.toList_append, String.toList_append, List.append_assoc]
  exact WrittenReview.last_of_settled readable settled unclosed

/-- A rejection is read behind an approval, although the approval quotes an opening tag and a tag of
another name is left open between the two. -/
theorem Review.parse_after_approval :
    let issue : Issue := { severity := .high, description := "Unsafe" }
    let read := Review.parse
      ("Draft.\n<review status=\"approved\"> not <review> </review>\n<reviews>" ++
        Review.render { verdict := .rejected, issues := [issue] } (some 2) (some "codex") ++
          "\n<review status=\"approved\">")
    read.verdict = .rejected ∧ read.issues = [issue] := by
  let written : WrittenReview :=
    { review := { verdict := .rejected
                  issues := [{ severity := .high, description := "Unsafe" }] }
      iteration := some 2
      reviewer := some "codex" }
  have readable : written.IsReadable := by
    refine ⟨fun issue among => ?_, fun name named => ?_⟩
    · obtain rfl := List.mem_singleton.mp among
      exact ⟨isPlain_spelled ⟨by decide, by decide, by decide⟩ (by decide), nofun⟩
    · cases named
      decide
  have settled : pending?
      "Draft.\n<review status=\"approved\"> not <review> </review>\n<reviews>".toList = none := by
    rw [String.toList_ofList]
    decide +kernel
  have unclosed : untilClosing? "\n<review status=\"approved\">".toList = none := by
    rw [String.toList_ofList]
    decide +kernel
  exact Review.parse_after_settled readable settled unclosed

/-- An opening tag that is left open takes the next marker for its own body: a rejection behind an
approval that was never closed is read as an approval. -/
theorem Review.open_tag_hides_rejection :
    let rejection : Review :=
      { verdict := .rejected, issues := [{ severity := .high, description := "Unsafe" }] }
    (Review.parse ("<review status=\"approved\">\nDraft, never closed.\n\n" ++
      rejection.render ++ "\n")).verdict = .approved := by
  dsimp only
  unfold Review.parse
  rw [String.toList_append, String.toList_append, Review.toList_render_tagged,
    String.toList_ofList, String.toList_ofList]
  decide +kernel

end PlanCycle
