/-
Module: PlanCycle.Settings.Path
Purpose: Paths of folders and files.
Main exports:
  Path, Path.ofText, Path.text, Path.join, Path.child, Path.resolve
-/

namespace PlanCycle

/-- A path: where it starts and the names on the way.  Neither an empty name nor a single dot
is kept; two dots are. -/
structure Path where
  /-- Empty, one slash or two slashes. -/
  start : String := ""
  names : List String := []
deriving Repr, Inhabited, DecidableEq

namespace Path

/-- The parts of a text between slashes. -/
def slashParts : List Char → List (List Char)
  | [] => [[]]
  | c :: text =>
    if c = '/' then [] :: slashParts text
    else
      match slashParts text with
      | [] => [[c]]
      | part :: parts => (c :: part) :: parts

/-- Where a path starts: two slashes count only if no third one follows. -/
def startOf : List Char → String
  | '/' :: '/' :: '/' :: _ => "/"
  | '/' :: '/' :: _ => "//"
  | '/' :: _ => "/"
  | _ => ""

/-- The path that a text names. -/
def ofText (text : String) : Path where
  start := startOf text.toList
  names := ((slashParts text.toList).map String.ofList).filter fun name =>
    name != "" && name != "."

/-- The text of a path. -/
def text (path : Path) : String :=
  if path.start = "" ∧ path.names = [] then "."
  else path.start ++ "/".intercalate path.names

/-- A path seen from another one; a path with a start of its own stays as it is. -/
def join (base path : Path) : Path :=
  if path.start = "" then { base with names := base.names ++ path.names } else path

/-- The path that a text names seen from another path. -/
def child (base : Path) (name : String) : Path := base.join (ofText name)

/-- The path one name further, two dots leading one name back. -/
def enter (path : Path) (name : String) : Path :=
  if name ≠ ".." ∨ path.names.getLast? = some ".." then
    { path with names := path.names ++ [name] }
  else if path.names.isEmpty then { path with names := if path.start = "" then [name] else [] }
  else { path with names := path.names.dropLast }

/-- Where a path leads from a folder, if the folders on its way are there. -/
def resolve (base path : Path) : Path :=
  if path.start = "" then path.names.foldl enter base
  else path.names.foldl enter { path with names := [] }

end Path

end PlanCycle
