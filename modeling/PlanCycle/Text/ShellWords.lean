/-
Module: PlanCycle.Text.ShellWords
Purpose: Splitting a command into words.
Main exports:
  shellWords
-/

namespace PlanCycle.Text

/-!
Words are separated by spaces, tabs and line ends.  Single quotes keep everything between
them; double quotes keep everything but a backslash before a backslash or a double quote;
outside of quotes a backslash keeps the next character.  Quotes may stand inside a word and
a pair of quotes with nothing between them is an empty word.
-/

/-- Where a splitter stands. -/
inductive WordPlace where
  /-- Between words. -/
  | between
  /-- In a word, outside of quotes. -/
  | plain
  /-- Between single quotes. -/
  | single
  /-- Between double quotes. -/
  | double
  /-- After a backslash outside of quotes. -/
  | escaped
  /-- After a backslash between double quotes. -/
  | doubleEscaped
deriving Repr, DecidableEq

/-- Whether a character separates words. -/
def separatesWords (c : Char) : Bool :=
  c == ' ' || c == '\t' || c == '\r' || c == '\n'

/-- The words of a text, given the word that is being read; nothing if a quote is left open
or a backslash ends the text. -/
def wordsFrom : WordPlace → List Char → List Char → Option (List (List Char))
  | .between, _, [] => some []
  | .plain, word, [] => some [word]
  | _, _, [] => none
  | .between, word, c :: text =>
    if separatesWords c then wordsFrom .between word text
    else if c = '\\' then wordsFrom .escaped [] text
    else if c = '\'' then wordsFrom .single [] text
    else if c = '"' then wordsFrom .double [] text
    else wordsFrom .plain [c] text
  | .plain, word, c :: text =>
    if separatesWords c then (wordsFrom .between [] text).map (word :: ·)
    else if c = '\\' then wordsFrom .escaped word text
    else if c = '\'' then wordsFrom .single word text
    else if c = '"' then wordsFrom .double word text
    else wordsFrom .plain (word ++ [c]) text
  | .single, word, c :: text =>
    if c = '\'' then wordsFrom .plain word text else wordsFrom .single (word ++ [c]) text
  | .double, word, c :: text =>
    if c = '"' then wordsFrom .plain word text
    else if c = '\\' then wordsFrom .doubleEscaped word text
    else wordsFrom .double (word ++ [c]) text
  | .escaped, word, c :: text => wordsFrom .plain (word ++ [c]) text
  | .doubleEscaped, word, c :: text =>
    if c = '"' ∨ c = '\\' then wordsFrom .double (word ++ [c]) text
    else wordsFrom .double (word ++ ['\\', c]) text

/-- The words of a command. -/
def shellWords (text : String) : Option (List String) :=
  (wordsFrom .between [] text.toList).map (·.map String.ofList)

end PlanCycle.Text
