/-
Module: PlanCycle.Yaml.Tag
Purpose: The kinds of YAML values, and which kind a plain scalar has.
Main exports:
  Tag, Tag.ofName, Tag.ofPlain
-/
import PlanCycle.Text.Line
import PlanCycle.Yaml.Moment

namespace PlanCycle.Yaml

/-- The kind of a node. -/
inductive Tag where
  | null
  | bool
  | int
  | float
  | binary
  | timestamp
  | omap
  | pairs
  | set
  | str
  | seq
  | map
  | merge
  | value
  | unknown
deriving Repr, DecidableEq

/-- What the names of the known kinds begin with. -/
def Tag.standardHead : String := "tag:yaml.org,2002:"

/-- The known kinds by name. -/
def Tag.standardNames : List (String × Tag) :=
  [("null", .null), ("bool", .bool), ("int", .int), ("float", .float), ("binary", .binary),
    ("timestamp", .timestamp), ("omap", .omap), ("pairs", .pairs), ("set", .set), ("str", .str),
    ("seq", .seq), ("map", .map), ("merge", .merge), ("value", .value)]

/-- The kind with a full name. -/
def Tag.ofName (name : String) : Tag :=
  ((standardNames.find? fun entry => standardHead ++ entry.1 == name).map (·.2)).getD .unknown

/-- The words for truth values, in small letters. -/
def truthWords : List (String × Bool) :=
  [("yes", true), ("no", false), ("true", true), ("false", false), ("on", true), ("off", false)]

/-- A word, the word with a capital at its start, and the word in capitals. -/
def spellings (word : String) : List String :=
  [word, word.capitalize, word.toUpper]

/-- Digits and underscores that begin with a digit. -/
def isDigitRun (text : List Char) : Bool :=
  match text with
  | c :: rest => c.isDigit && rest.all fun c => c.isDigit || c == '_'
  | [] => false

/-- The text without a sign. -/
def dropSign : List Char → List Char
  | '-' :: rest => rest
  | '+' :: rest => rest
  | rest => rest

/-- The parts of a text between colons. -/
def colonParts (text : List Char) : List (List Char) :=
  text.foldr (fun c parts =>
    match parts with
    | part :: parts => if c = ':' then [] :: part :: parts else (c :: part) :: parts
    | [] => [[c]]) [[]]

/-- One digit, or two of which the first is less than six. -/
def isSixtieth : List Char → Bool
  | [a] => a.isDigit
  | [a, b] => '0' ≤ a && a ≤ '5' && b.isDigit
  | _ => false

/-- Whether a plain scalar is a whole number. -/
def isIntText (text : List Char) : Bool :=
  let text := dropSign text
  let positive (text : List Char) := isDigitRun text && text.head? != some '0'
  match text with
  | '0' :: 'b' :: rest =>
    !rest.isEmpty && rest.all fun c => c == '0' || c == '1' || c == '_'
  | '0' :: 'x' :: rest =>
    !rest.isEmpty && rest.all fun c => (Number.hexValue? c).isSome || c == '_'
  | '0' :: rest => rest.all fun c => ('0' ≤ c && c ≤ '7') || c == '_'
  | _ =>
    match colonParts text with
    | [whole] => positive whole
    | first :: rest => positive first && rest.all isSixtieth
    | [] => false

/-- Whether a text is empty or an exponent with its sign. -/
def isExponent : List Char → Bool
  | [] => true
  | mark :: sign :: digits =>
    (mark == 'e' || mark == 'E') && (sign == '-' || sign == '+') && !digits.isEmpty &&
      digits.all Char.isDigit
  | _ => false

/-- Whether a plain scalar is a number with a point. -/
def isFloatText (text : List Char) : Bool :=
  let unsigned := dropSign text
  let word := String.ofList unsigned
  let isGroup (c : Char) := c.isDigit || c == '_'
  let whole := unsigned.takeWhile (· != '.')
  match unsigned.dropWhile (· != '.') with
  | '.' :: part =>
    let afterPart := part.dropWhile isGroup
    (isDigitRun whole && isExponent afterPart) ||
      (text.head? == some '.' && isDigitRun (part.takeWhile isGroup) && isExponent afterPart) ||
      (match colonParts whole with
        | first :: second :: rest =>
          isDigitRun first && (second :: rest).all isSixtieth && afterPart.isEmpty
        | _ => false) ||
      word ∈ [".inf", ".Inf", ".INF"] ||
      (text.head? == some '.' && word ∈ [".nan", ".NaN", ".NAN"])
  | _ => false

/-- Whether a plain scalar is a point in time. -/
def isMomentText (text : List Char) : Bool :=
  match readMoment? text with
  | some written => written.padded || written.time.isSome
  | none => false

/-- The kind of a plain scalar. -/
def Tag.ofPlain (text : String) : Tag :=
  let chars := Text.dropLastNewline text.toList
  let word := String.ofList chars
  if text = "" ∨ word = "~" ∨ word ∈ spellings "null" then .null
  else if truthWords.any fun entry => word ∈ spellings entry.1 then .bool
  else if isFloatText chars then .float
  else if isIntText chars then .int
  else if isMomentText chars then .timestamp
  else if word = "<<" then .merge
  else if word = "=" then .value
  else .str

end PlanCycle.Yaml
