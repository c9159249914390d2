/-
Module: PlanCycle.Json.Reading
Purpose: Reading JSON texts.
Main exports:
  Json.Fault, Json.parse
-/
import PlanCycle.Json.Basic
import PlanCycle.Number.Numeral

namespace PlanCycle.Json

open Number Text

/-!
The grammar is the usual one, with the number words `NaN`, `Infinity` and `-Infinity`
added.  A reader takes the characters still to be read and returns what it read
together with the rest.
-/

/-- Why a text is no JSON value. -/
inductive Fault where
  | malformed
  /-- A whole number with more digits than are accepted. -/
  | longNumeral
deriving Repr, DecidableEq

/-- The characters that may stand between tokens. -/
def isSpace (c : Char) : Bool :=
  c == ' ' || c == '\t' || c == '\n' || c == '\r'

/-- The text from its next token on. -/
def skipSpace (text : List Char) : List Char :=
  text.dropWhile isSpace

/-- Four hexadecimal digits that the text begins with. -/
def hexFour? : List Char → Option (Nat × List Char)
  | a :: b :: c :: d :: rest => do
    let high := 16 * (← hexValue? a) + (← hexValue? b)
    let low := 16 * (← hexValue? c) + (← hexValue? d)
    some (256 * high + low, rest)
  | _ => none

/-- The characters that a backslash and one letter stand for. -/
def shortEscape? : Char → Option Char
  | '"' => some '"'
  | '\\' => some '\\'
  | '/' => some '/'
  | 'b' => some '\x08'
  | 'f' => some '\x0C'
  | 'n' => some '\n'
  | 'r' => some '\r'
  | 't' => some '\t'
  | _ => none

/-- The letter for a code unit and, if it is the first half of a pair, the unit that
follows. -/
def pairedUnit (unit : Nat) (rest : List Char) : Letter × List Char :=
  if 0xD800 ≤ unit ∧ unit < 0xDC00 then
    match rest with
    | '\\' :: 'u' :: after =>
      match hexFour? after with
      | some (low, after) =>
        if 0xDC00 ≤ low ∧ low < 0xE000 then
          (.char (Char.ofNat (0x10000 + (unit - 0xD800) * 0x400 + (low - 0xDC00))), after)
        else (.half unit, rest)
      | none => (.half unit, rest)
    | _ => (.half unit, rest)
  else if 0xDC00 ≤ unit ∧ unit < 0xE000 then (.half unit, rest)
  else (.char (Char.ofNat unit), rest)

/-- The letters of a text up to its closing quote.  The fuel bounds the number of
characters and escapes. -/
def stringBody : (fuel : Nat) → List Char → Except Fault (List Letter × List Char)
  | 0, _ | _ + 1, [] => .error .malformed
  | _ + 1, '"' :: rest => .ok ([], rest)
  | fuel + 1, '\\' :: 'u' :: rest => do
    match hexFour? rest with
    | none => .error .malformed
    | some (unit, rest) =>
      let (letter, rest) := pairedUnit unit rest
      let (text, rest) ← stringBody fuel rest
      .ok (letter :: text, rest)
  | fuel + 1, '\\' :: c :: rest => do
    match shortEscape? c with
    | none => .error .malformed
    | some c =>
      let (text, rest) ← stringBody fuel rest
      .ok (.char c :: text, rest)
  | fuel + 1, c :: rest => do
    if c.toNat < 32 ∨ c = '\\' then .error .malformed
    else
      let (text, rest) ← stringBody fuel rest
      .ok (.char c :: text, rest)

/-- The digits that the text begins with, and the rest. -/
def digits (text : List Char) : List Char × List Char :=
  (text.takeWhile Char.isDigit, text.dropWhile Char.isDigit)

/-- A point and the digits after it, if both are there. -/
def fraction (text : List Char) : List Char × List Char :=
  match text with
  | '.' :: rest => if (digits rest).1.isEmpty then ([], text) else digits rest
  | _ => ([], text)

/-- An exponent, if a letter and digits are there. -/
def exponent? (text : List Char) : Option (Int × List Char) :=
  let signed (negative : Bool) (rest : List Char) : Option (Int × List Char) :=
    let (ds, rest) := digits rest
    if ds.isEmpty then none
    else some ((if negative then -(ofDigits ds : Int) else ofDigits ds), rest)
  match text with
  | c :: rest =>
    if c = 'e' ∨ c = 'E' then
      match rest with
      | '-' :: rest => signed true rest
      | '+' :: rest => signed false rest
      | rest => signed false rest
    else none
  | [] => none

/-- A number without its sign. -/
def unsigned (negative : Bool) (text : List Char) :
    Except Fault (Json × List Char) :=
  let (whole, rest) := match text with
    | '0' :: rest => (['0'], rest)
    | _ => digits text
  if whole.isEmpty then .error .malformed
  else
    let (part, afterPart) := fraction rest
    match exponent? afterPart with
    | none =>
      if part.isEmpty then
        if numeralLimit < whole.length then .error .longNumeral
        else
          let n : Int := ofDigits whole
          .ok (.int (if negative then -n else n), afterPart)
      else
        .ok (.float (.ofDecimal negative (ofDigits (whole ++ part)) (-part.length)), afterPart)
    | some (power, rest) =>
      .ok (.float (.ofDecimal negative (ofDigits (whole ++ part)) (power - part.length)), rest)

/-- What follows a fixed word that the text begins with. -/
def dropExact? : (word text : List Char) → Option (List Char)
  | [], text => some text
  | _ :: _, [] => none
  | letter :: word, c :: text => if letter = c then dropExact? word text else none

/-- The words that are values. -/
def words : List (String × Json) :=
  [("null", .null), ("true", .bool true), ("false", .bool false), ("NaN", .float .nan),
    ("Infinity", .float (.infinite false)), ("-Infinity", .float (.infinite true))]

/-- A word that is a value, or else a number. -/
def scalar (text : List Char) : Except Fault (Json × List Char) :=
  let word := words.findSome? fun entry =>
    (dropExact? entry.1.toList text).map fun rest => (entry.2, rest)
  match word with
  | some found => .ok found
  | none =>
    match text with
    | '-' :: rest => unsigned true rest
    | _ => unsigned false text

mutual

/-- A value.  The fuel bounds the depth and the number of parts. -/
def value : (fuel : Nat) → List Char → Except Fault (Json × List Char)
  | 0, _ => .error .malformed
  | _ + 1, '"' :: rest => do
    let (text, rest) ← stringBody (rest.length + 1) rest
    .ok (.ofLetters text, rest)
  | fuel + 1, '[' :: rest =>
    match skipSpace rest with
    | ']' :: rest => .ok (.array [], rest)
    | rest => do
      let (items, rest) ← items fuel rest
      .ok (.array items, rest)
  | fuel + 1, '\x7b' :: rest =>
    match skipSpace rest with
    | '\x7d' :: rest => .ok (.object [], rest)
    | rest => do
      let (fields, rest) ← fields fuel [] rest
      .ok (.object fields, rest)
  | _ + 1, text => scalar text

/-- The items of an array up to its closing bracket; at least one is expected. -/
def items : (fuel : Nat) → List Char → Except Fault (List Json × List Char)
  | 0, _ => .error .malformed
  | fuel + 1, text => do
    let (item, rest) ← value fuel text
    match skipSpace rest with
    | ']' :: rest => .ok ([item], rest)
    | ',' :: rest =>
      let (more, rest) ← items fuel (skipSpace rest)
      .ok (item :: more, rest)
    | _ => .error .malformed

/-- The fields of an object up to its closing brace, added to those already read; at
least one is expected.  Of two fields with one name the later value counts. -/
def fields : (fuel : Nat) → List (String × Json) → List Char →
    Except Fault (List (String × Json) × List Char)
  | 0, _, _ => .error .malformed
  | fuel + 1, known, '"' :: rest => do
    let (name, rest) ← stringBody (rest.length + 1) rest
    match skipSpace rest with
    | ':' :: rest =>
      let (item, rest) ← value fuel (skipSpace rest)
      let known := setField (shownText name) item known
      match skipSpace rest with
      | '\x7d' :: rest => .ok (known, rest)
      | ',' :: rest => fields fuel known (skipSpace rest)
      | _ => .error .malformed
    | _ => .error .malformed
  | _ + 1, _, _ => .error .malformed

end

/-- The JSON value that a text holds, with nothing but space around it. -/
def parse (text : List Char) : Except Fault Json := do
  let (found, rest) ← value (2 * text.length + 1) (skipSpace text)
  if (skipSpace rest).isEmpty then .ok found else .error .malformed

end PlanCycle.Json
