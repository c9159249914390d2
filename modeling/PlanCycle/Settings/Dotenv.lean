/-
Module: PlanCycle.Settings.Dotenv
Purpose: Reading variables from a file of assignments.
Main exports:
  Dotenv.Assignment, Dotenv.assignments, Dotenv.values
-/
import PlanCycle.Settings.Basic
import PlanCycle.Text.Blank

namespace PlanCycle

open Text

/-!
Each line `NAME=value` sets a variable; `export` may stand before the name.  A value may be
quoted, then it may run over lines.  A number sign after a blank begins a comment.  A value
may name other variables as `$` and braces, with a text for the case that they are not set.
-/

namespace Dotenv

/-- A name with the value that it is given; a name without an equals sign has none. -/
abbrev Assignment := String × Option String

/-- Blanks that do not end a line. -/
def isLineBlank (c : Char) : Bool :=
  isBlank c && c != '\n' && c != '\r'

/-- The characters up to a closing quote and what follows the quote; a backslash before the
quote keeps it in the value, unless nothing else closes the value. -/
def quotedPart? (quote : Char) : List Char → Option (List Char × List Char)
  | [] => none
  | '\\' :: c :: text =>
    if c = quote then
      match quotedPart? quote text with
      | some (part, rest) => some ('\\' :: c :: part, rest)
      | none => some (['\\'], text)
    else (quotedPart? quote (c :: text)).map fun found => ('\\' :: found.1, found.2)
  | c :: text =>
    if c = quote then some ([], text)
    else (quotedPart? quote text).map fun found => (c :: found.1, found.2)

/-- The character that a backslash and a letter stand for between double quotes. -/
def escape? : Char → Option Char
  | '\\' => some '\\'
  | '\'' => some '\''
  | '"' => some '"'
  | 'a' => some '\x07'
  | 'b' => some '\x08'
  | 'f' => some '\x0C'
  | 'n' => some '\n'
  | 'r' => some '\r'
  | 't' => some '\t'
  | 'v' => some '\x0B'
  | _ => none

/-- Replaces escapes for which the given characters may follow the backslash. -/
def unescape (isEscape : Char → Bool) : List Char → List Char
  | '\\' :: c :: text =>
    match if isEscape c then escape? c else none with
    | some meant => meant :: unescape isEscape text
    | none => '\\' :: unescape isEscape (c :: text)
  | c :: text => c :: unescape isEscape text
  | [] => []

/-- A value without quotes: the line up to a number sign after a blank. -/
def bareValue : List Char → List Char
  | [] => []
  | c :: line =>
    if isBlank c && (dropBlank line).head? == some '#' then []
    else c :: bareValue line

/-- The value after an equals sign and what follows it. -/
def value? (text : List Char) : Option (List Char × List Char) :=
  match text with
  | '\'' :: text =>
    (quotedPart? '\'' text).map fun found =>
      (unescape (fun c => c == '\\' || c == '\'') found.1, found.2)
  | '"' :: text =>
    (quotedPart? '"' text).map fun found => (unescape (fun _ => true) found.1, found.2)
  | text => some (trimEnd (bareValue (text.takeWhile fun c => c != '\n' && c != '\r')),
      text.dropWhile fun c => c != '\n' && c != '\r')

/-- Drops the word `export` and the blanks after it. -/
def dropExport (text : List Char) : List Char :=
  let rest := text.drop 6
  if text.take 6 = "export".toList ∧ (rest.head?.map isLineBlank).getD false then
    rest.dropWhile isLineBlank
  else text

/-- The name that a text begins with and what follows it.  A comment has no name. -/
def name? (text : List Char) : Option (Option (List Char) × List Char) :=
  match text with
  | '#' :: _ => some (none, text)
  | '\'' :: text =>
    let name := text.takeWhile (· != '\'')
    match text.dropWhile (· != '\'') with
    | _ :: rest => if name.isEmpty then none else some (some name, rest)
    | [] => none
  | text =>
    let isPart (c : Char) := c != '=' && c != '#' && !isBlank c
    let name := text.takeWhile isPart
    if name.isEmpty then none else some (some name, text.dropWhile isPart)

/-- The rest after a comment, if there is one, and a line end, which has to be there. -/
def lineEnd? (text : List Char) : Option (List Char) :=
  let rest := text.dropWhile isLineBlank
  let rest := match rest with
    | '#' :: _ => rest.dropWhile fun c => c != '\n' && c != '\r'
    | rest => rest
  match rest with
  | [] => some []
  | '\r' :: '\n' :: rest => some rest
  | '\n' :: rest => some rest
  | '\r' :: rest => some rest
  | _ => none

/-- The text after its first line. -/
def dropLine (text : List Char) : List Char :=
  (text.dropWhile fun c => c != '\n' && c != '\r').drop 1

/-- The assignment that a text begins with, if any, and what follows its line.  A line that
cannot be read to its end makes no assignment. -/
def assignment (text : List Char) : Option Assignment × List Char :=
  let start := dropExport text
  match name? start with
  | none => (none, dropLine start)
  | some (name, rest) =>
    let rest := rest.dropWhile isLineBlank
    let found := match rest with
      | '=' :: rest =>
        let rest := rest.dropWhile isLineBlank
        match value? rest with
        | some (value, rest) => some (some (String.ofList value), rest)
        | none => none
      | rest => some (none, rest)
    match found with
    | none => (none, dropLine rest)
    | some (value, rest) =>
      match lineEnd? rest with
      | some after => (name.map fun name => (String.ofList name, value), after)
      | none => (none, dropLine rest)

/-- The assignments of a text, at most as many as the fuel says. -/
def assignmentsFrom : (fuel : Nat) → List Char → List Assignment
  | 0, _ => []
  | fuel + 1, text =>
    match dropBlank text with
    | [] => []
    | text =>
      let (found, rest) := assignment text
      found.toList ++ assignmentsFrom fuel rest

/-- The assignments of a text, in order. -/
def assignments (text : String) : List Assignment :=
  assignmentsFrom text.length text.toList

/-- A part of a value: a character, or the name of a variable with what stands for it if it
is not set. -/
def reference? (text : List Char) : Option (String × String × List Char) :=
  match text with
  | '$' :: '\x7b' :: text =>
    let name := text.takeWhile fun c => c != '\x7d' && c != ':'
    match text.dropWhile fun c => c != '\x7d' && c != ':' with
    | '\x7d' :: rest => some (String.ofList name, "", rest)
    | ':' :: '-' :: rest =>
      match rest.dropWhile (· != '\x7d') with
      | _ :: after => some (String.ofList name, String.ofList (rest.takeWhile (· != '\x7d')), after)
      | [] => none
    | _ => none
  | _ => none

/-- A value with the variables that it names filled in. -/
def fillIn (environment : Environment) : (fuel : Nat) → List Char → List Char
  | 0, text => text
  | _ + 1, [] => []
  | fuel + 1, c :: text =>
    match reference? (c :: text) with
    | some (name, other, rest) =>
      ((environment.find? name).getD other).toList ++ fillIn environment fuel rest
    | none => c :: fillIn environment fuel text

/-- Sets a variable; one that is there already keeps its place. -/
def setVariable {α : Type} (name : String) (value : α) : List (String × α) → List (String × α)
  | [] => [(name, value)]
  | entry :: entries =>
    if entry.1 = name then (name, value) :: entries else entry :: setVariable name value entries

/-- The variables that assignments set.  A value sees the variables set before it and
those of the environment. -/
def values (environment : Environment) (assignments : List Assignment) : List Assignment :=
  assignments.foldl
    (fun known entry =>
      let seen := known.filterMap (fun entry => entry.2.map fun value => (entry.1, value)) ++
        environment
      let value := entry.2.map fun value =>
        String.ofList (fillIn seen value.length value.toList)
      setVariable entry.1 value known)
    []

end Dotenv

end PlanCycle
