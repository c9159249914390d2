/-
Module: PlanCycle.Json.Writing
Purpose: Writing JSON values.
Main exports:
  Json.render, Json.renderIndented
-/
import PlanCycle.Json.Basic
import PlanCycle.Number.Numeral
import PlanCycle.Number.Shortest

namespace PlanCycle.Json

open Number

/-- Floating-point numbers in JSON. -/
def floatFormat : FloatFormat := ⟨(-3, 16), "Infinity", "NaN"⟩

/-- Four hexadecimal digits. -/
def hexFour (n : Nat) : List Char :=
  let digits := Nat.toDigits 16 n
  List.replicate (4 - digits.length) '0' ++ digits

/-- A character inside a quoted text.  All that is not plain ASCII is escaped, beyond
the basic plane as a pair of units. -/
def escape (c : Char) : List Char :=
  let unit (n : Nat) := '\\' :: 'u' :: hexFour n
  if c = '"' then ['\\', '"']
  else if c = '\\' then ['\\', '\\']
  else if c = '\n' then ['\\', 'n']
  else if c = '\r' then ['\\', 'r']
  else if c = '\t' then ['\\', 't']
  else if c = '\x08' then ['\\', 'b']
  else if c = '\x0C' then ['\\', 'f']
  else if 32 ≤ c.toNat ∧ c.toNat < 127 then [c]
  else if c.toNat < 0x10000 then unit c.toNat
  else
    let n := c.toNat - 0x10000
    unit (0xD800 + n / 0x400) ++ unit (0xDC00 + n % 0x400)

/-- A character inside a quoted text that may hold halves of surrogate pairs. -/
def escapeHalf (c : Char) : List Char :=
  if Text.isHalf c then '\\' :: 'u' :: hexFour (Text.halfCode c) else escape c

/-- A text in quotes. -/
def quote (text : String) (escaped : Char → List Char := escape) : List Char :=
  '"' :: (text.toList.flatMap escaped ++ ['"'])

/-- A value that has no parts. -/
def scalarText : Json → List Char
  | .bool true => "true".toList
  | .bool false => "false".toList
  | .int value => (intText value).toList
  | .float value => (value.text floatFormat).toList
  | .string value => quote value
  | .halved value => quote value escapeHalf
  | _ => "null".toList

mutual

/-- The value on one line. -/
def chars : Json → List Char
  | .array items => '[' :: (itemChars items ++ [']'])
  | .object fields => '\x7b' :: (fieldChars fields ++ ['\x7d'])
  | value => scalarText value

/-- Items with a comma between each two. -/
def itemChars : List Json → List Char
  | [] => []
  | [item] => chars item
  | item :: items => chars item ++ ',' :: ' ' :: itemChars items

/-- Fields with a comma between each two. -/
def fieldChars : List (String × Json) → List Char
  | [] => []
  | [(name, value)] => quote name ++ ':' :: ' ' :: chars value
  | (name, value) :: fields =>
    quote name ++ ':' :: ' ' :: (chars value ++ ',' :: ' ' :: fieldChars fields)

end

/-- The value on one line. -/
def render (value : Json) : String :=
  String.ofList (chars value)

mutual

/-- The value with each item and field on a line of its own, indented by the margin. -/
def spread (step margin : Nat) : Json → List Char
  | .array [] => ['[', ']']
  | .object [] => ['\x7b', '\x7d']
  | .array items =>
    '[' :: (spreadItems step (margin + step) items ++
      '\n' :: (List.replicate margin ' ' ++ [']']))
  | .object fields =>
    '\x7b' :: (spreadFields step (margin + step) fields ++
      '\n' :: (List.replicate margin ' ' ++ ['\x7d']))
  | value => scalarText value

/-- Items, each on a line of its own. -/
def spreadItems (step margin : Nat) : List Json → List Char
  | [] => []
  | item :: items =>
    '\n' :: (List.replicate margin ' ' ++ spread step margin item ++
      (if items.isEmpty then [] else [',']) ++ spreadItems step margin items)

/-- Fields, each on a line of its own. -/
def spreadFields (step margin : Nat) : List (String × Json) → List Char
  | [] => []
  | (name, value) :: fields =>
    '\n' :: (List.replicate margin ' ' ++ quote name ++ ':' :: ' ' :: spread step margin value ++
      (if fields.isEmpty then [] else [',']) ++ spreadFields step margin fields)

end

/-- The value on indented lines. -/
def renderIndented (step : Nat) (value : Json) : String :=
  String.ofList (spread step 0 value)

end PlanCycle.Json
