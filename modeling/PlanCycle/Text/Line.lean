/-
Module: PlanCycle.Text.Line
Purpose: Cutting a text into lines.
Main exports:
  isLineBreak, splitLines, upToNewline, dropLastNewline, joinLines
-/

namespace PlanCycle.Text

/-!
Two notions of a line are in use.  `splitLines` ends a line at every character that
Unicode treats as a line boundary.  `upToNewline` ends it at the line feed alone,
as headings and labelled lines of a document are read.
-/

/-- The characters that end a line for `splitLines`. -/
def isLineBreak (c : Char) : Bool :=
  let n := c.toNat
  (10 ≤ n && n ≤ 13) || (28 ≤ n && n ≤ 30) || n == 0x85 || n == 0x2028 || n == 0x2029

/-- The lines of a text without their ends.  A carriage return followed by a line
feed ends one line, and a break at the end of the text begins no further line. -/
def splitLines : List Char → List (List Char)
  | [] => []
  | '\r' :: '\n' :: rest => [] :: splitLines rest
  | c :: rest =>
    if isLineBreak c then [] :: splitLines rest
    else match splitLines rest with
      | [] => [[c]]
      | line :: lines => (c :: line) :: lines

/-- The rest of the line, and what follows it from its line feed on. -/
def upToNewline (text : List Char) : List Char × List Char :=
  (text.takeWhile (· != '\n'), text.dropWhile (· != '\n'))

/-- The text without a line feed at its end. -/
def dropLastNewline (text : List Char) : List Char :=
  if text.getLast? = some '\n' then text.dropLast else text

/-- The lines with a line feed between each two of them. -/
def joinLines (lines : List String) : String :=
  "\n".intercalate lines

end PlanCycle.Text
