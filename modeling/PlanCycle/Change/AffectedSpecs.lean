/-
Module: PlanCycle.Change.AffectedSpecs
Purpose: The specs that a proposal names.
Main exports:
  specsValue?, affectedSpecs
-/
import PlanCycle.Change.Artifact
import PlanCycle.Text.Caseless
import PlanCycle.Text.Heading
import PlanCycle.Text.LowerCase

namespace PlanCycle

open Text

/-!
A proposal lists its specs on a line `Affected specs:`, which may be an item of a list and
may have its label in stars.  Only the first such line with a value counts.
-/

/-- The text without the stars that it begins with. -/
def dropStars (text : List Char) : List Char :=
  text.dropWhile (· == '*')

/-- The text without one mark of a list item. -/
def dropBullet : List Char → List Char
  | '-' :: text => text
  | '*' :: text => text
  | text => text

/-- The value after a label at the beginning of a text. -/
def labelledValue? (text : List Char) : Option (List Char) := do
  let start := dropStars (dropBlank (dropBullet (dropBlank text)))
  let rest ← dropWord? "affected specs".toList start
  match dropBlank (dropStars rest) with
  | ':' :: rest => (lineRemainder? (dropStars rest)).map (·.1)
  | _ => none

/-- The value of the first line with the label, given whether a line begins here. -/
def specsValueFrom? : Bool → List Char → Option (List Char)
  | true, text =>
    match labelledValue? text with
    | some value => some value
    | none =>
      match text with
      | [] => none
      | c :: rest => specsValueFrom? (c == '\n') rest
  | false, [] => none
  | false, c :: rest => specsValueFrom? (c == '\n') rest

/-- The value of the first line with the label. -/
def specsValue? (proposal : List Char) : Option (List Char) :=
  specsValueFrom? true proposal

/-- The parts of a text between commas. -/
def commaParts : List Char → List (List Char)
  | [] => [[]]
  | c :: text =>
    if c = ',' then [] :: commaParts text
    else
      match commaParts text with
      | [] => [[c]]
      | part :: parts => (c :: part) :: parts

/-- The marks that may stand around a spec id. -/
def isIdMark (c : Char) : Bool :=
  c == '[' || c == ']' || c == '\x60' || c == '\'' || c == '"' || c == '*'

/-- The text without an ending. -/
def dropEnding (ending text : List Char) : List Char :=
  if ending.isSuffixOf text then text.take (text.length - ending.length) else text

/-- The text without a beginning. -/
def dropBeginning (start text : List Char) : List Char :=
  (Artifact.afterStart? start text).getD text

/-- A part of the value without what may stand around a spec id. -/
def bareId (part : List Char) : List Char :=
  dropBeginning Artifact.specStart.toList
    (dropEnding ".md".toList (trim (trimOf isIdMark (trim part))))

/-- Whether a value says that there are no specs. -/
def saysNone (value : List Char) : Bool :=
  ["none".toList, "n/a".toList, "[]".toList, "-".toList].contains (lowerCase value)

/-- Adds a spec id that is valid and not there yet. -/
def addId (ids : List String) (part : List Char) : List String :=
  let id := bareId part
  if isSpecId id && !ids.contains (String.ofList id) then ids ++ [String.ofList id] else ids

/-- The specs that a value names, each once, in order. -/
def specIdsOf (value : List Char) : List String :=
  let value := trim value
  if saysNone value then [] else (commaParts value).foldl addId []

/-- The specs that a proposal names. -/
def affectedSpecs (proposal : String) : List String :=
  match specsValue? proposal.toList with
  | some value => specIdsOf value
  | none => []

end PlanCycle
