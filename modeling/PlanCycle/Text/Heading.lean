/-
Module: PlanCycle.Text.Heading
Purpose: Headings of a document and the text that stands under each.
Main exports:
  lineRemainder?, HeadingLevel, heading?, Sections, sections
-/
import PlanCycle.Text.Blank
import PlanCycle.Text.Line

namespace PlanCycle.Text

/-!
A heading is a run of number signs at the start of a line, blanks, and a title.
The blanks may run over line ends, so a title may stand on a later line than its
number signs.
-/

/-- The last of the characters that is not a line feed. -/
def lastOffNewline? (text : List Char) : Option Char :=
  text.reverse.find? (· != '\n')

/-- The value that stands after blanks: the rest of the first line that is not
blank, without the blanks at its end.  If only blanks are left, the last of them
that is no line feed is the value.  What follows the value comes second. -/
def lineRemainder? (text : List Char) : Option (List Char × List Char) :=
  match dropBlank text with
  | [] => (lastOffNewline? text).map fun c => ([c], [])
  | c :: rest =>
    let (line, rest) := upToNewline (c :: rest)
    some (trimEnd line, rest)

/-- The level of a heading: its number of number signs. -/
inductive HeadingLevel where
  | exactly (signs : Nat)
  | any
deriving Repr, DecidableEq

/-- What follows the number signs of a heading of the given level. -/
def dropNumberSigns? : HeadingLevel → List Char → Option (List Char)
  | .exactly signs, text =>
    if text.take signs = List.replicate signs '#' then some (text.drop signs) else none
  | .any, '#' :: text => some (text.dropWhile (· == '#'))
  | .any, _ => none

/-- The title of a heading of the given level that the text begins with, and what
follows the title. -/
def heading? (level : HeadingLevel) (text : List Char) : Option (List Char × List Char) := do
  match ← dropNumberSigns? level text with
  | c :: rest => if isBlank c then lineRemainder? rest else none
  | [] => none

theorem length_dropNumberSigns? {level : HeadingLevel} {text rest : List Char}
    (found : dropNumberSigns? level text = some rest) : rest.length ≤ text.length := by
  unfold dropNumberSigns? at found
  split at found
  · split at found
    · cases found
      simp
    · cases found
  · cases found
    exact Nat.le_succ_of_le (List.dropWhile_sublist _).length_le
  · cases found

theorem length_lineRemainder? {text value rest : List Char}
    (found : lineRemainder? text = some (value, rest)) : rest.length ≤ text.length := by
  have shorter := length_dropBlank_le text
  unfold lineRemainder? at found
  split at found
  · obtain ⟨_, _, same⟩ := Option.map_eq_some_iff.1 found
    cases same
    exact Nat.zero_le _
  · rename_i c tail same
    cases found
    rw [same] at shorter
    exact Nat.le_trans (List.dropWhile_sublist _).length_le shorter

theorem length_heading? {level : HeadingLevel} {text title rest : List Char}
    (found : heading? level text = some (title, rest)) : rest.length < text.length := by
  unfold heading? at found
  simp only [Option.bind_eq_bind, Option.bind_eq_some_iff] at found
  obtain ⟨signs, dropped, found⟩ := found
  have := length_dropNumberSigns? dropped
  split at found
  · split at found
    · have := length_lineRemainder? found
      simp_all only [List.length_cons]
      omega
    · cases found
  · cases found

/-- A document cut at its headings: the text before the first heading, and each
title with the text under it. -/
structure Sections where
  lead : List Char
  parts : List (List Char × List Char)
deriving Repr, DecidableEq

/-- Cuts a text at its headings of one level.  The first argument after the level
says whether the text begins a line. -/
def sectionsFrom (level : HeadingLevel) (lineStart : Bool) (text : List Char) : Sections :=
  match _found : if lineStart then heading? level text else none with
  | some (title, rest) =>
    let below := sectionsFrom level false rest
    ⟨[], (title, below.lead) :: below.parts⟩
  | none =>
    match text with
    | [] => ⟨[], []⟩
    | c :: rest =>
      let later := sectionsFrom level (c == '\n') rest
      ⟨c :: later.lead, later.parts⟩
termination_by text.length
decreasing_by
  · split at _found
    · exact length_heading? _found
    · cases _found
  · simp

/-- Cuts a text at its headings of one level. -/
def sections (level : HeadingLevel) (text : List Char) : Sections :=
  sectionsFrom level true text

end PlanCycle.Text
