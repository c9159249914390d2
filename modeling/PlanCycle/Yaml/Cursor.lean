/-
Module: PlanCycle.Yaml.Cursor
Purpose: A place in a YAML text, and the character classes of the language.
Main exports:
  Fault, Cursor, Cursor.advance, Cursor.takeWhile
-/

namespace PlanCycle.Yaml

/-- Why a text cannot be read. -/
inductive Fault where
  /-- The text is not YAML, or uses a tag that is not known. -/
  | malformed
  /-- A value of a known kind that is out of range or not written as its kind demands. -/
  | badValue
  /-- A word tagged as a truth value that is none. -/
  | unknownWord
  /-- An empty text tagged as a number. -/
  | emptyNumber
  /-- A text tagged as a point in time that is none. -/
  | notMoment
  /-- A number in base sixty with a place value that no number with a point can hold. -/
  | overflow
deriving Repr, DecidableEq

/-- The end of the text is read as this character, which no text holds. -/
def endMark : Char := '\x00'

/-- The characters that end a line. -/
def isBreak (c : Char) : Bool :=
  c == '\n' || c == '\r' || c.toNat == 0x85 || c.toNat == 0x2028 || c.toNat == 0x2029

/-- A line end or the end of the text. -/
def isBreakOrEnd (c : Char) : Bool :=
  isBreak c || c == endMark

/-- A space, a line end or the end of the text. -/
def isSpaceOrEnd (c : Char) : Bool :=
  c == ' ' || isBreakOrEnd c

/-- A space, a tab, a line end or the end of the text. -/
def isGapOrEnd (c : Char) : Bool :=
  c == '\t' || isSpaceOrEnd c

/-- The characters of names of anchors, tag handles and directives. -/
def isNameCharacter (c : Char) : Bool :=
  c.isAlphanum || c == '-' || c == '_'

/-- The mark that may stand at the very start of a text. -/
def byteOrderMark : Char := Char.ofNat 0xFEFF

/-- The characters that a YAML text may hold. -/
def isAllowed (c : Char) : Bool :=
  let n := c.toNat
  n == 9 || n == 10 || n == 13 || (0x20 ≤ n && n ≤ 0x7E) || n == 0x85 || (0xA0 ≤ n && n ≤ 0xD7FF) ||
    (0xE000 ≤ n && n ≤ 0xFFFD) || 0x10000 ≤ n

/-- What is left of a text, with the number of characters before it and the line and
column where it begins. -/
structure Cursor where
  rest : List Char
  index : Nat := 0
  line : Nat := 0
  column : Nat := 0
deriving Repr

namespace Cursor

/-- The next character. -/
def peek (cursor : Cursor) : Char :=
  cursor.rest.headD endMark

/-- The character after the given number of characters. -/
def peekAt (cursor : Cursor) (n : Nat) : Char :=
  (cursor.rest.drop n).headD endMark

/-- The place after the next character.  A carriage return that a line feed follows
does not end the line by itself. -/
def advance (cursor : Cursor) : Cursor :=
  match cursor.rest with
  | [] => cursor
  | c :: rest =>
    let index := cursor.index + 1
    if isBreak c && !(c == '\r' && rest.head? == some '\n') then
      { rest, index, line := cursor.line + 1, column := 0 }
    else if c == byteOrderMark then { cursor with rest, index }
    else { cursor with rest, index, column := cursor.column + 1 }

/-- The place after the given number of characters. -/
def advanceBy (cursor : Cursor) : Nat → Cursor
  | 0 => cursor
  | n + 1 => cursor.advance.advanceBy n

/-- The characters of a class that come next, and the place after them. -/
def takeWhile (cursor : Cursor) (p : Char → Bool) : List Char × Cursor :=
  let taken := cursor.rest.takeWhile p
  (taken, cursor.advanceBy taken.length)

/-- The place after the characters of a class that come next. -/
def skipWhile (cursor : Cursor) (p : Char → Bool) : Cursor :=
  (cursor.takeWhile p).2

/-- Reads a line end: the character it counts as, if there is one. -/
def lineEnd (cursor : Cursor) : List Char × Cursor :=
  let c := cursor.peek
  if c == '\r' && cursor.peekAt 1 == '\n' then (['\n'], cursor.advanceBy 2)
  else if c == '\r' || c == '\n' || c.toNat == 0x85 then (['\n'], cursor.advance)
  else if isBreak c then ([c], cursor.advance)
  else ([], cursor)

/-- Whether three dashes or three dots that stand alone come next. -/
def atSeparator (cursor : Cursor) : Bool :=
  (cursor.rest.take 3 == ['-', '-', '-'] || cursor.rest.take 3 == ['.', '.', '.']) &&
    isGapOrEnd (cursor.peekAt 3)

/-- Skips spaces and a comment up to the end of the line. -/
def skipComment (cursor : Cursor) : Cursor :=
  let cursor := cursor.skipWhile (· == ' ')
  if cursor.peek == '#' then cursor.skipWhile (!isBreakOrEnd ·) else cursor

/-- Skips the rest of a line that may hold only a comment. -/
def finishLine (cursor : Cursor) : Except Fault Cursor :=
  let cursor := cursor.skipComment
  if isBreakOrEnd cursor.peek then .ok cursor.lineEnd.2 else .error .malformed

end Cursor

end PlanCycle.Yaml
