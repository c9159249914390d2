/-
Module: PlanCycle.Text.Blank
Purpose: Blank characters, and texts with their blank ends cut off.
Main exports:
  isBlank, dropBlank, trimEnd, trim, trimOf, isBlankText
-/

namespace PlanCycle.Text

/-!
Blank characters are those with Unicode's white-space property, together with the
four information separators from code point 28 to 31.
-/

/-- Spaces, line breaks, tabs and the other blank characters. -/
def isBlank (c : Char) : Bool :=
  let n := c.toNat
  (9 ≤ n && n ≤ 13) || (28 ≤ n && n ≤ 32) || n == 0x85 || n == 0xA0 || n == 0x1680 ||
    (0x2000 ≤ n && n ≤ 0x200A) || n == 0x2028 || n == 0x2029 || n == 0x202F || n == 0x205F ||
    n == 0x3000

/-- The text from its first character outside the class on. -/
def trimStartOf (drop : Char → Bool) (text : List Char) : List Char :=
  text.dropWhile drop

/-- The text up to its last character outside the class. -/
def trimEndOf (drop : Char → Bool) (text : List Char) : List Char :=
  (text.reverse.dropWhile drop).reverse

/-- The text without the characters of a class at either end. -/
def trimOf (drop : Char → Bool) (text : List Char) : List Char :=
  trimEndOf drop (trimStartOf drop text)

/-- The text from its first character that is not blank on. -/
def dropBlank (text : List Char) : List Char :=
  trimStartOf isBlank text

/-- The text up to its last character that is not blank. -/
def trimEnd (text : List Char) : List Char :=
  trimEndOf isBlank text

/-- The text without blanks at either end. -/
def trim (text : List Char) : List Char :=
  trimOf isBlank text

/-- Whether nothing but blanks is in the text. -/
def isBlankText (text : List Char) : Bool :=
  text.all isBlank

/-- The text without blanks at either end. -/
def trimmed (text : String) : String :=
  String.ofList (trim text.toList)

theorem length_dropBlank_le (text : List Char) : (dropBlank text).length ≤ text.length :=
  (List.dropWhile_sublist _).length_le

end PlanCycle.Text
