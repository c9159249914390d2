/-
Module: PlanCycle.CommandLine.Invocation
Purpose: What the arguments of the program ask for.
Main exports:
  Request, Invocation, Invocation.read
-/
import PlanCycle.CommandLine.Arguments

namespace PlanCycle.CommandLine

open Text

/-- What is asked of a project. -/
inductive Request where
  | new (id description : String)
  | cycle (id : String)
  | challenge (id : String)
  | status (id : String) (asJson : Bool)
  | list
  | implement (id : String)
  | archive (id : String)
  | reenter (id : String)
deriving Repr, Inhabited, DecidableEq

/-- What a run of the program is for. -/
inductive Invocation where
  | version
  | help
  /-- A request, with the folder of the project if it is named. -/
  | request (root : Option String) (request : Request)
deriving Repr, Inhabited, DecidableEq

/-- A command: its name, what it calls its arguments, and its own options besides the help. -/
structure Command where
  name : String
  arguments : List String
  options : List OptionRule := []
deriving Repr, Inhabited

namespace Command

/-- The commands. -/
def all : List Command :=
  [⟨"new", ["CHANGE_ID", "DESCRIPTION"], []⟩, ⟨"cycle", ["CHANGE_ID"], []⟩,
    ⟨"challenge", ["CHANGE_ID"], []⟩, ⟨"status", ["CHANGE_ID"], [.flag "--json"]⟩,
    ⟨"list", [], []⟩, ⟨"implement", ["CHANGE_ID"], []⟩, ⟨"archive", ["CHANGE_ID"], []⟩,
    ⟨"reenter", ["CHANGE_ID"], []⟩]

/-- The request of a command with the given arguments. -/
def request? (name : String) (given : GivenOptions) : Option Request :=
  match name, given.others with
  | "new", [id, description] => some (.new id description)
  | "cycle", [id] => some (.cycle id)
  | "challenge", [id] => some (.challenge id)
  | "status", [id] => some (.status id (given.has "--json"))
  | "list", [] => some .list
  | "implement", [id] => some (.implement id)
  | "archive", [id] => some (.archive id)
  | "reenter", [id] => some (.reenter id)
  | _, _ => none

/-- Reads the arguments of a command.  Too few are reported before too many. -/
def read (command : Command) (root : Option String) (arguments : List String) :
    Except UsageFault Invocation := do
  let given ← GivenOptions.read (command.options ++ [.flag "--help"]) true arguments
  if given.has "--help" then .ok .help
  else
    match request? command.name given, command.arguments.drop given.others.length with
    | some request, _ => .ok (.request root request)
    | none, missing :: _ => .error (.missingArgument missing)
    | none, [] => .error (.extraArguments (given.others.drop command.arguments.length))

end Command

namespace Invocation

/-- The options before the name of a command. -/
def options : List OptionRule :=
  [.valued "--project-root", .flag "--verbose" (some 'v'), .flag "--version", .flag "--help"]

/-- What the options before the name of a command come to: the version or the help, whichever
is asked for first, or the folder of the project, which has to be no file. -/
def ofOptions (isFile : String → Bool) (given : GivenOptions) :
    Except UsageFault (Option Invocation) :=
  match given.options.find? fun option => option.1 == "--version" || option.1 == "--help" with
  | some ("--version", _) => .ok (some .version)
  | some _ => .ok (some .help)
  | none =>
    match given.value? "--project-root" with
    | some root => if isFile root then .error (.rootIsFile root) else .ok none
    | none => .ok none

/-- Reads the arguments of the program, given which paths are files.  A name of a command that
is none is read once more, as an option, before it is refused. -/
def read (isFile : String → Bool) (arguments : List String) : Except UsageFault Invocation := do
  if arguments.isEmpty then .ok .help
  else
    let given ← GivenOptions.read options false arguments
    match ← ofOptions isFile given, given.others with
    | some invocation, _ => .ok invocation
    | none, [] => .error .missingCommand
    | none, name :: rest =>
      match Command.all.find? (·.name == name) with
      | some command => command.read (given.value? "--project-root") rest
      | none =>
        match ← ofOptions isFile (← GivenOptions.read options false given.others) with
        | some invocation => .ok invocation
        | none => .error (.unknownCommand name)

end Invocation

end PlanCycle.CommandLine
