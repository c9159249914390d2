/-
Module: PlanCycle.CommandLine.Arguments
Purpose: Reading the options of a command, and what can be wrong with them.
Main exports:
  UsageFault, UsageFault.message, OptionRule, GivenOptions, GivenOptions.read
-/
import PlanCycle.Text.Quoted
import PlanCycle.Text.Resemblance

namespace PlanCycle.CommandLine

open Text

/-- What is wrong with the arguments of a command. -/
inductive UsageFault where
  /-- An option that the command does not know, with the options that resemble it. -/
  | unknownOption (name : String) (resembling : List String)
  | missingValue (option : String)
  | unexpectedValue (option : String)
  | missingArgument (name : String)
  | extraArguments (arguments : List String)
  | missingCommand
  | unknownCommand (name : String)
  /-- A file where the folder of a project is expected. -/
  | rootIsFile (path : String)
deriving Repr, Inhabited, DecidableEq

/-- The wording of a fault. -/
def UsageFault.message : UsageFault → String
  | .unknownOption name [] => "No such option: " ++ name
  | .unknownOption name [one] => "No such option: " ++ name ++ " Did you mean " ++ one ++ "?"
  | .unknownOption name several =>
    "No such option: " ++ name ++ " (Possible options: " ++
      ", ".intercalate (several.mergeSort (· ≤ ·)) ++ ")"
  | .missingValue option => "Option " ++ quoted option ++ " requires an argument."
  | .unexpectedValue option => "Option " ++ quoted option ++ " does not take a value."
  | .missingArgument name => "Missing argument '" ++ name ++ "'."
  | .extraArguments [one] => "Got unexpected extra argument (" ++ one ++ ")"
  | .extraArguments several =>
    "Got unexpected extra arguments (" ++ " ".intercalate several ++ ")"
  | .missingCommand => "Missing command."
  | .unknownCommand name => "No such command " ++ quoted name ++ "."
  | .rootIsFile path =>
    "Invalid value for '--project-root': Directory " ++ quoted path ++ " is a file."

/-- An option that a command knows, by its name with the two dashes. -/
inductive OptionRule where
  /-- An option without a value, which may also have a letter after a single dash. -/
  | flag (long : String) (letter : Option Char := none)
  | valued (long : String)
deriving Repr, Inhabited, DecidableEq

namespace OptionRule

/-- The name with the two dashes. -/
def long : OptionRule → String
  | .flag long _ => long
  | .valued long => long

/-- The letter after a single dash. -/
def letter? : OptionRule → Option Char
  | .flag _ letter => letter
  | .valued _ => none

end OptionRule

/-- The options among arguments, in order and by their long names, and the other arguments. -/
structure GivenOptions where
  options : List (String × Option String) := []
  others : List String := []
deriving Repr, Inhabited, DecidableEq

/-- What an argument that names options asks for. -/
inductive OptionRequest where
  | complete (options : List (String × Option String))
  /-- The next argument is the value. -/
  | wantsValue (option : String)
deriving Repr, Inhabited, DecidableEq

/-- An argument up to its first equals sign, and what comes after the sign. -/
def atEquals (argument : List Char) : List Char × Option (List Char) :=
  (argument.takeWhile (· != '='),
    match argument.dropWhile (· != '=') with
    | [] => none
    | _ :: value => some value)

/-- Reads letters after a single dash, each one the name of an option. -/
def readLetters (rules : List OptionRule) :
    List Char → Except UsageFault (List (String × Option String))
  | [] => .ok []
  | c :: letters =>
    match rules.find? (·.letter? == some c) with
    | none => .error (.unknownOption (String.ofList ['-', c]) [])
    | some rule => (readLetters rules letters).map ((rule.long, none) :: ·)

/-- Reads an argument that begins with a dash. -/
def OptionRequest.read (rules : List OptionRule) (argument : List Char) :
    Except UsageFault OptionRequest :=
  let (name, value) := atEquals argument
  let name := String.ofList name
  match rules.find? (·.long == name), value with
  | some (.flag ..), none => .ok (.complete [(name, none)])
  | some (.flag ..), some _ => .error (.unexpectedValue name)
  | some (.valued _), none => .ok (.wantsValue name)
  | some (.valued _), some value => .ok (.complete [(name, some (String.ofList value))])
  | none, _ =>
    match argument with
    | '-' :: '-' :: _ => .error (.unknownOption name (resembling name (rules.map (·.long))))
    | letters => (readLetters rules (letters.drop 1)).map .complete

/-- Whether an argument names options.  A single dash does not. -/
def namesOptions (argument : String) : Bool :=
  match argument.toList with
  | '-' :: _ :: _ => true
  | _ => false

namespace GivenOptions

/-- The options with others before them. -/
def after (given : GivenOptions) (options : List (String × Option String)) : GivenOptions :=
  { given with options := options ++ given.options }

/-- Reads arguments.  Two dashes end the options; so does the first other argument unless the
options may stand between the others. -/
def read (rules : List OptionRule) (mixed : Bool) : List String → Except UsageFault GivenOptions
  | [] => .ok {}
  | argument :: arguments =>
    if argument = "--" then .ok { others := arguments }
    else if namesOptions argument then
      match OptionRequest.read rules argument.toList with
      | .error fault => .error fault
      | .ok (.complete options) => (read rules mixed arguments).map (·.after options)
      | .ok (.wantsValue option) =>
        match arguments with
        | [] => .error (.missingValue option)
        | value :: arguments => (read rules mixed arguments).map (·.after [(option, some value)])
    else if mixed then
      (read rules mixed arguments).map fun given =>
        { given with others := argument :: given.others }
    else .ok { others := argument :: arguments }

/-- Whether an option is given. -/
def has (given : GivenOptions) (option : String) : Bool :=
  given.options.any (·.1 == option)

/-- The value of an option; of several, the last one. -/
def value? (given : GivenOptions) (option : String) : Option String :=
  ((given.options.filter (·.1 == option)).getLast?).bind (·.2)

end GivenOptions

end PlanCycle.CommandLine
