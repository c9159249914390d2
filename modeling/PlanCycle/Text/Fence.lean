/-
Module: PlanCycle.Text.Fence
Purpose: A document without the fence of backticks around it.
Main exports:
  fencedBody?, withoutFence
-/
import PlanCycle.Text.Blank

namespace PlanCycle.Text

/-- Three backticks. -/
def fence : List Char := ['\x60', '\x60', '\x60']

/-- What stands before a closing fence at the end of a text; the fence has to begin a line. -/
def closedBody? (text : List Char) : Option (List Char) :=
  let text := trimEnd text
  if ('\n' :: fence).isSuffixOf text then some (text.take (text.length - 4)) else none

/-- The body that begins after a line end, where only blanks come before that line end.  A
later line end goes before an earlier one. -/
def bodyAfterBlanks? : List Char → Option (List Char)
  | [] => none
  | c :: text =>
    if isBlank c then
      match bodyAfterBlanks? text with
      | some body => some body
      | none => if c = '\n' then closedBody? text else none
    else none

/-- The text without a word for the kind of document. -/
def dropFenceTag (text : List Char) : List Char :=
  if "markdown".toList.isPrefixOf text then text.drop 8
  else if "md".toList.isPrefixOf text then text.drop 2
  else text

/-- The document in a fence that wraps a whole text. -/
def fencedBody? (text : List Char) : Option (List Char) :=
  let text := dropBlank text
  if fence.isPrefixOf text then bodyAfterBlanks? (dropFenceTag (text.drop 3)) else none

/-- The document in a fence that wraps a whole text, else the text. -/
def withoutFence (text : List Char) : List Char :=
  (fencedBody? text).getD text

end PlanCycle.Text
