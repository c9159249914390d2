/-
Module: PlanCycle.Json.Basic
Purpose: JSON values.
Main exports:
  Json, Json.ofLetters, Json.field?, Json.text?, Json.isWhole, Json.isPresent
-/
import PlanCycle.Number.Binary64
import PlanCycle.Text.Surrogate

namespace PlanCycle

open Number Text

/-- A JSON value.  Numbers written without fraction and exponent are whole numbers of
any size; the fields of an object keep the order in which they first appeared.  A text with
halves of surrogate pairs is set apart, as it has no encoding; it is shown with stand-ins. -/
inductive Json where
  | null
  | bool (value : Bool)
  | int (value : Int)
  | float (value : Binary64)
  | string (value : String)
  | halved (shown : String)
  | array (items : List Json)
  | object (fields : List (String × Json))
deriving Repr, Inhabited, BEq

/-- What stands at one place of a text: a character, or a half of a surrogate pair without its
partner. -/
inductive Letter where
  | char (c : Char)
  | half (code : Nat)
deriving Repr, DecidableEq

namespace Letter

/-- Whether it is a character. -/
def isChar : Letter → Bool
  | .char _ => true
  | .half _ => false

/-- The character that is shown in its place. -/
def shown : Letter → Char
  | .char c => c
  | .half code => halfOf code

end Letter

namespace Json

/-- The text that letters make up, as it is shown. -/
def shownText (letters : List Letter) : String := String.ofList (letters.map Letter.shown)

/-- The text that letters make up. -/
def ofLetters (letters : List Letter) : Json :=
  if letters.all Letter.isChar then .string (shownText letters) else .halved (shownText letters)

@[simp] theorem shownText_chars (text : List Char) :
    shownText (text.map .char) = String.ofList text := by
  rw [shownText, List.map_map]
  exact congrArg String.ofList (List.map_id text)

@[simp] theorem ofLetters_chars (text : List Char) :
    ofLetters (text.map .char) = .string (String.ofList text) := by
  simp [ofLetters, Letter.isChar]

/-- The value of a field of an object. -/
def field? (name : String) : Json → Option Json
  | .object fields => (fields.find? (·.1 == name)).map (·.2)
  | _ => none

/-- The text, if the value is one without halves. -/
def string? : Json → Option String
  | .string value => some value
  | _ => none

/-- The text as it is shown, if the value is one. -/
def text? : Json → Option String
  | .string value | .halved value => some value
  | _ => none

/-- Whether the value is no text with halves. -/
def isWhole : Json → Bool
  | .halved _ => false
  | _ => true

/-- The fields, if the value is an object. -/
def fields? : Json → Option (List (String × Json))
  | .object fields => some fields
  | _ => none

/-- The items, if the value is an array. -/
def items? : Json → Option (List Json)
  | .array items => some items
  | _ => none

/-- Whether the value says something: null, false, zero and what is empty do not. -/
def isPresent : Json → Bool
  | .null => false
  | .bool value => value
  | .int value => value != 0
  | .float value => !value.isZero
  | .string value => !value.isEmpty
  | .halved _ => true
  | .array items => !items.isEmpty
  | .object fields => !fields.isEmpty

/-- Sets a field; a field that is there already keeps its place. -/
def setField (name : String) (value : Json) : List (String × Json) → List (String × Json)
  | [] => [(name, value)]
  | field :: fields =>
    if field.1 = name then (name, value) :: fields else field :: setField name value fields

end Json

end PlanCycle
