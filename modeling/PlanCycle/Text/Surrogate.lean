/-
Module: PlanCycle.Text.Surrogate
Purpose: Halves of surrogate pairs, which escapes can put into a text.
Main exports:
  isSurrogate, halfOf, isHalf, codeOf, holdsHalf
-/

namespace PlanCycle.Text

/-!
An escape can name a half of a surrogate pair.  Such a half is no character, so it has a
stand-in among the last characters for private use.  A text that holds a half can be compared
and searched like any other, but it has no encoding, so it cannot be put into a file, into a
record or on the input of a program.  A stand-in means a half only where an escape can have named
one; what was read from a text without such escapes holds characters alone.
-/

/-- Whether a code point is a half of a surrogate pair. -/
def isSurrogate (code : Nat) : Bool := 0xD800 ≤ code && code < 0xE000

/-- The distance from the halves to their stand-ins. -/
def standInShift : Nat := 0x10F800 - 0xD800

/-- The character that stands for a half. -/
def halfOf (code : Nat) : Char := Char.ofNat (code + standInShift)

/-- Whether a character stands for a half. -/
def isHalf (c : Char) : Bool := 0x10F800 ≤ c.toNat

/-- The half that a character stands for. -/
def halfCode (c : Char) : Nat := c.toNat - standInShift

/-- The code point that a character stands for. -/
def codeOf (c : Char) : Nat := if isHalf c then halfCode c else c.toNat

/-- Whether a text holds a half. -/
def holdsHalf (text : List Char) : Bool := text.any isHalf

end PlanCycle.Text
