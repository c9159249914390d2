/-
Module: PlanCycle.Settings.Reading
Purpose: Settings from variables of the environment and of a file of assignments.
Main exports:
  SettingsFault, Settings.read
-/
import PlanCycle.Json.Reading
import PlanCycle.Settings.Dotenv
import PlanCycle.Text.LowerCase

namespace PlanCycle

open Number Text

/-!
A setting is named by its field after `CHANGELOOP_`, in any mix of letter cases.  The
environment goes before the file; the two tables of prices are merged.  A name in the file
that is no setting is refused.
-/

/-- Why there are no settings. -/
inductive SettingsFault where
  /-- A value that is not what its field needs, or a name that is no setting. -/
  | invalid
  /-- A table of prices that is no JSON. -/
  | unreadable
deriving Repr, DecidableEq

namespace Settings

/-- What the names of all settings begin with. -/
def namePart : String := "changeloop_"

/-- The fields of settings with values of their own, the table of prices apart. -/
def plainFields : List String :=
  ["project_root", "changes_dir", "state_db_name", "gemini_cmd", "codex_cmd", "claude_cmd",
    "agent_timeout", "list_sessions_timeout", "max_retries", "retry_delay_seconds",
    "planning_iterations", "self_review_iterations"]

/-- The field of prices. -/
def pricesField : String := "pricing_overrides"

/-- All fields. -/
def fields : List String := plainFields ++ [pricesField]

/-- A name in small letters. -/
def lowered (name : String) : String :=
  String.ofList (lowerCase name.toList)

/-- The value of a field; of several names that differ in letter case only, the last counts. -/
def valueOf? (environment : Environment) (field : String) : Option String :=
  (environment.reverse.find? fun entry => lowered entry.1 == namePart ++ field).map (·.2)

/-- Blanks around a number. -/
def isOuterBlank (c : Char) : Bool :=
  isNumberBlank c

/-- A whole number: a sign, digits with single underscores between them, and possibly a
point with nothing but zeros after it. -/
def wholeNumber? (text : String) : Option Int := do
  let text := trimOf isOuterBlank text.toList
  let (negative, rest) := splitSign text
  let whole := rest.takeWhile (· != '.')
  guard ((rest.dropWhile (· != '.')).drop 1 |>.all (· == '0'))
  let digits ← groupedDigits? Char.isDigit whole
  guard (text.length ≤ numeralLimit)
  some (if negative then -(ofDigits digits : Int) else ofDigits digits)

/-- A number, of ASCII characters apart from the blanks around it. -/
def floatNumber? (text : String) : Option Binary64 :=
  let text := trimOf isOuterBlank text.toList
  if text.all (·.toNat < 128) then readFloat? text else none

/-- A price: a whole number, or a number or a text that is read as decimal digits. -/
def price? : Json → Option Decimal
  | .int n => some (.ofInt n)
  | .float (.finite negative mantissa exponent) =>
    Decimal.read? ((Binary64.finite negative mantissa exponent).text .plain)
  | .string text => Decimal.read? text
  | _ => none

/-- A table of prices. -/
def priceLists? : Json → Option (List (String × List Decimal))
  | .object entries => entries.mapM fun entry => do
    let items ← entry.2.items?
    some (entry.1, ← items.mapM price?)
  | _ => none

/-- A value of the table of prices; nothing if it says that there is none. -/
def priceTable (value : Option String) : Except SettingsFault (Option Json) :=
  match value with
  | none => .ok none
  | some text =>
    match Json.parse text.toList with
    | .error _ => .error .unreadable
    | .ok .null => .ok none
    | .ok table => .ok (some table)

/-- One value over another: tables are merged, all else is replaced. -/
def merged : Option Json → Option Json → Option Json
  | some (.object upper), some (.object lower) =>
    some (.object (upper.foldl (fun fields field => Json.setField field.1 field.2 fields) lower))
  | some upper, _ => some upper
  | none, lower => lower

/-- Names in a file that are neither settings nor bare fields nor empty. -/
def unknownNames (file : List Dotenv.Assignment) : List String :=
  (file.filter fun entry =>
    let name := lowered entry.1
    (entry.2.getD "") != "" && !fields.contains name &&
      !(fields.map (namePart ++ ·)).contains name).map (·.1)

/-- A field that a value fills, or its default. -/
def filled {α : Type} (value : Option String) (read? : String → Option α) (default : α) :
    Except SettingsFault α :=
  match value with
  | none => .ok default
  | some text =>
    match read? text with
    | some found => .ok found
    | none => .error .invalid

/-- The settings that the environment and a file of assignments make. -/
def read (environment : Environment) (dotenv : Option String := none) :
    Except SettingsFault Settings := do
  let file := (dotenv.map fun text =>
    Dotenv.values environment (Dotenv.assignments text)).getD []
  let fileValues := file.filterMap fun entry => entry.2.map fun value => (entry.1, value)
  let value (field : String) := (valueOf? environment field).orElse fun _ =>
    valueOf? fileValues field
  let tableOfEnvironment ← priceTable (valueOf? environment pricesField)
  let tableOfFile ← priceTable (valueOf? fileValues pricesField)
  if !(unknownNames file).isEmpty then throw .invalid
  let prices ← match merged tableOfEnvironment tableOfFile with
    | none => .ok []
    | some table =>
      match priceLists? table with
      | some lists => .ok lists
      | none => .error .invalid
  let standard : Settings := {}
  let path (text : String) := some (Path.ofText text)
  return {
    projectRoot := ← filled (value "project_root") path standard.projectRoot
    changesFolder := ← filled (value "changes_dir") path standard.changesFolder
    stateFile := ← filled (value "state_db_name") some standard.stateFile
    geminiCommand := ← filled (value "gemini_cmd") some standard.geminiCommand
    codexCommand := ← filled (value "codex_cmd") some standard.codexCommand
    claudeCommand := ← filled (value "claude_cmd") some standard.claudeCommand
    agentTimeout := ← filled (value "agent_timeout") wholeNumber? standard.agentTimeout
    listingTimeout := ← filled (value "list_sessions_timeout") wholeNumber? standard.listingTimeout
    maxRetries := ← filled (value "max_retries") wholeNumber? standard.maxRetries
    retryDelay := ← filled (value "retry_delay_seconds") floatNumber? standard.retryDelay
    planningIterations :=
      ← filled (value "planning_iterations") wholeNumber? standard.planningIterations
    selfReviewIterations :=
      ← filled (value "self_review_iterations") wholeNumber? standard.selfReviewIterations
    pricingOverrides := prices }

end Settings

end PlanCycle
