/-
Module: PlanCycle.Review.Finding
Purpose: Reading the issues that the body of a review names.
Main exports:
  Finding, findings, issuesOf, droppedOf
-/
import PlanCycle.Review.Keyword
import PlanCycle.Text.Caseless
import PlanCycle.Text.Heading

namespace PlanCycle

open Text

/-!
Issues are written in one of two ways: as headed blocks with bold fields, or as
list items that begin with a severity.  The headed blocks go first; list items count
only where no headed block has a field.  If there is a section called "Issues",
nothing outside it counts.
-/

/-- Something that looks like an issue: an issue, or the text by which one is known
that has no recognizable severity. -/
inductive Finding where
  | named (issue : Issue)
  | dropped (text : String)
deriving Repr, DecidableEq

/-- The issue, if it is one. -/
def Finding.issue? : Finding → Option Issue
  | .named issue => some issue
  | .dropped _ => none

/-- The text of something that is no issue. -/
def Finding.dropped? : Finding → Option String
  | .named _ => none
  | .dropped text => some text

namespace Finding

/-- The names of the fields of a headed block. -/
def fieldNames : List String :=
  ["severity", "description", "location"]

/-- A field name that the text begins with, spelled as it stands there, and what
follows it. -/
def fieldName? (text : List Char) : Option (List Char × List Char) :=
  fieldNames.findSome? fun name =>
    (dropWord? name.toList text).map fun rest => (text.take name.length, rest)

/-- A bold field name with its value, and what follows the value. -/
def boldField? : List Char → Option ((List Char × List Char) × List Char)
  | '*' :: '*' :: text => do
    let (name, rest) ← fieldName? text
    match rest with
    | '*' :: '*' :: rest =>
      match dropBlank rest with
      | ':' :: rest =>
        let (value, rest) ← lineRemainder? rest
        some ((name, value), rest)
      | _ => none
    | _ => none
  | _ => none

/-- A field, with or without a bullet before it. -/
def field? (text : List Char) : Option ((List Char × List Char) × List Char) :=
  match dropBlank text with
  | [] => none
  | c :: rest =>
    if c = '-' ∨ c = '*' then boldField? (dropBlank rest) <|> boldField? (c :: rest)
    else boldField? (c :: rest)

theorem length_fieldName? {text name rest : List Char}
    (found : fieldName? text = some (name, rest)) : rest.length ≤ text.length := by
  obtain ⟨word, _, named⟩ := List.exists_of_findSome?_eq_some found
  obtain ⟨_, dropped, same⟩ := Option.map_eq_some_iff.1 named
  cases same
  have := length_dropWord? dropped
  omega

theorem length_boldField? {text rest : List Char} {field : List Char × List Char}
    (found : boldField? text = some (field, rest)) : rest.length < text.length := by
  unfold boldField? at found
  split at found
  · rename_i text
    simp only [Option.bind_eq_bind, Option.bind_eq_some_iff] at found
    obtain ⟨⟨name, one⟩, named, found⟩ := found
    have first := length_fieldName? named
    dsimp only at found
    split at found
    · rename_i two
      have second := length_dropBlank_le two
      split at found
      · rename_i three blank
        simp only [Option.bind_eq_some_iff] at found
        obtain ⟨⟨value, four⟩, valued, same⟩ := found
        cases same
        have third := length_lineRemainder? valued
        simp only [blank, List.length_cons] at first second ⊢
        omega
      · cases found
    · cases found
  · cases found

theorem length_field? {text rest : List Char} {field : List Char × List Char}
    (found : field? text = some (field, rest)) : rest.length < text.length := by
  have shorter := length_dropBlank_le text
  unfold field? at found
  split at found
  · cases found
  · rename_i c tail same
    rw [same] at shorter
    have inner := length_dropBlank_le tail
    simp only [List.length_cons] at shorter
    split at found
    · rcases Option.or_eq_some_iff.1 (by simpa using found) with found | ⟨_, found⟩
      · have := length_boldField? found
        omega
      · have := length_boldField? found
        simp only [List.length_cons] at this
        omega
    · have := length_boldField? found
      simp only [List.length_cons] at this
      omega

/-- The fields of a text in order, each beginning a line. -/
def fieldsFrom (lineStart : Bool) (text : List Char) : List (List Char × List Char) :=
  match _found : if lineStart then field? text else none with
  | some (field, rest) => field :: fieldsFrom false rest
  | none =>
    match text with
    | [] => []
    | c :: rest => fieldsFrom (c == '\n') rest
termination_by text.length
decreasing_by
  · split at _found
    · exact length_field? _found
    · cases _found
  · simp

/-- The fields of a headed block, names in lower case, values trimmed. -/
def fields (block : List Char) : List (List Char × List Char) :=
  (fieldsFrom true block).map fun field => (lowerCase field.1, trim field.2)

/-- The value of the last field with a name. -/
def value? (fields : List (List Char × List Char)) (name : String) : Option (List Char) :=
  (fields.reverse.find? (·.1 == name.toList)).map (·.2)

/-- What a headed block says, unless it has no field. -/
def ofBlock (title block : List Char) : Option Finding :=
  let fields := fields block
  if fields.isEmpty then none
  else
    let named := (value? fields "description").getD []
    let description := String.ofList (if named.isEmpty then trim title else named)
    match Severity.ofWord? ((value? fields "severity").getD []) with
    | none => some (.dropped description)
    | some severity =>
      some (.named ⟨severity, description, (value? fields "location").map String.ofList⟩)

/-- What the headed blocks of a text say. -/
def ofBlocks (text : List Char) : List Finding :=
  (sections (.exactly 3) text).parts.filterMap fun part => ofBlock part.1 part.2

/-- Drops blanks, a colon if one follows, and blanks again. -/
def dropColon (text : List Char) : List Char :=
  match dropBlank text with
  | ':' :: rest => dropBlank rest
  | rest => rest

/-- The description in a list item: what is left of the line after the severity and
an optional colon.  If nothing is left, the last character before it is taken. -/
def itemDescription? (text : List Char) : Option (List Char) :=
  match dropColon text with
  | [] => text.getLast?.map fun c => [c]
  | rest => some (trimEnd rest)

/-- The severity word and the description of a list item. -/
def item? (line : List Char) : Option (List Char × List Char) :=
  match dropBlank line with
  | bullet :: c :: rest =>
    if (bullet = '-' ∨ bullet = '*') ∧ isBlank c then
      match dropBlank rest with
      | '[' :: rest =>
        let word := rest.takeWhile Char.isAlpha
        match rest.dropWhile Char.isAlpha with
        | ']' :: rest => if word.isEmpty then none else (itemDescription? rest).map (word, ·)
        | _ => none
      | '*' :: '*' :: rest =>
        let word := rest.takeWhile Char.isAlpha
        match rest.dropWhile Char.isAlpha with
        | '*' :: '*' :: rest =>
          if word.isEmpty then none else (itemDescription? rest).map (word, ·)
        | _ => none
      | rest =>
        let word := rest.takeWhile Char.isAlpha
        match dropBlank (rest.dropWhile Char.isAlpha) with
        | ':' :: rest =>
          if word.isEmpty then none
          else match dropBlank rest with
            | [] => rest.getLast?.map fun c => (word, [c])
            | rest => some (word, trimEnd rest)
        | _ => none
    else none
  | _ => none

/-- What follows an opening parenthesis, the word for a place, and a colon. -/
def dropPlaceLabel? (text : List Char) : Option (List Char) := do
  let rest ← dropWord? "location".toList text <|> dropWord? "at".toList text
  match dropBlank rest with
  | ':' :: rest => some rest
  | _ => none

/-- The place that a text names if it is one parenthesis with a place label, with
nothing but blanks after it. -/
def placeSuffix? : List Char → Option (List Char)
  | '(' :: text => do
    let rest ← dropPlaceLabel? text
    let place := rest.takeWhile (· != ')')
    match rest.dropWhile (· != ')') with
    | _ :: after => if place.isEmpty || !isBlankText after then none else some (trim place)
    | [] => none
  | _ => none

/-- Cuts the first place suffix off a description. -/
def splitPlace : List Char → List Char × Option (List Char)
  | [] => ([], none)
  | c :: text =>
    match placeSuffix? (c :: text) with
    | some place => ([], some place)
    | none =>
      let (before, place) := splitPlace text
      (c :: before, place)

/-- What a line says if it is a list item. -/
def ofLine (line : List Char) : Option Finding := do
  let (word, description) ← item? line
  if lowerCase word ∈ fieldNames.map String.toList then none
  else match Severity.ofWord? word with
    | none => some (.dropped (String.ofList (trim line)))
    | some severity =>
      match splitPlace description with
      | (_, none) => some (.named ⟨severity, String.ofList description, none⟩)
      | (before, some place) =>
        some (.named ⟨severity, String.ofList (trimEnd before), some (String.ofList place)⟩)

/-- What the list items of a text say. -/
def ofItems (text : List Char) : List Finding :=
  (splitLines text).filterMap ofLine

end Finding

/-- The text in which issues are looked for. -/
def issueScope (body : List Char) : List Char :=
  let chosen := (sections (.exactly 2) body).parts.find? fun part =>
    lowerCase (trim part.1) == "issues".toList
  chosen.elim body (·.2)

/-- Everything in the body of a review that looks like an issue. -/
def findings (body : List Char) : List Finding :=
  match Finding.ofBlocks (issueScope body) with
  | [] => Finding.ofItems (issueScope body)
  | blocks => blocks

/-- The issues that the body of a review names. -/
def issuesOf (body : List Char) : List Issue :=
  (findings body).filterMap Finding.issue?

/-- The texts that look like an issue but have no recognizable severity. -/
def droppedOf (body : List Char) : List String :=
  (findings body).filterMap Finding.dropped?

end PlanCycle
