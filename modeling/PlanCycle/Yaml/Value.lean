/-
Module: PlanCycle.Yaml.Value
Purpose: The values that YAML nodes stand for, and how they are written in messages.
Main exports:
  Value, Value.asText, Value.shown, Value.isWritable, Value.isPresent, Value.field?
-/
import PlanCycle.Number.Shortest
import PlanCycle.Text.Quoted
import PlanCycle.Yaml.Moment

namespace PlanCycle.Yaml

open Number Text

/-- A value. -/
inductive Value where
  | null
  | bool (value : Bool)
  | int (value : Int)
  | float (value : Binary64)
  | text (value : String)
  /-- A text that holds halves of surrogate pairs. -/
  | halved (value : String)
  | bytes (value : List UInt8)
  | date (value : Date)
  | moment (value : Moment)
  | list (items : List Value)
  | dict (fields : List (Value × Value))
  | set (members : List Value)
  | pair (first second : Value)
  /-- A collection inside itself. -/
  | enclosing (isMapping : Bool)
deriving Repr, Inhabited

namespace Value

/-- The value of a text, where escapes may name halves of surrogate pairs or not. -/
def ofText (halves : Bool) (text : String) : Value :=
  if halves && holdsHalf text.toList then .halved text else .text text

/-! ### Equality of keys -/

/-- The number that a key counts as, as a fraction; truth values count as 0 and 1. -/
def ratio? : Value → Option (Int × Nat)
  | .bool value => some (if value then 1 else 0, 1)
  | .int value => some (value, 1)
  | .float value => value.ratio?
  | _ => none

/-- Whether two keys are the same key.  Numbers are compared by their value. -/
def sameKey (a b : Value) : Bool :=
  match a, b with
  | .null, .null => true
  | .text a, .text b => a == b
  | .halved a, .halved b => a == b
  | .bytes a, .bytes b => a == b
  | .date a, .date b => a == b
  | .moment a, .moment b => a.offset.isSome == b.offset.isSome && a.instant == b.instant
  | .float .nan, .float .nan => true
  | .float (.infinite s), .float (.infinite t) => s == t
  | a, b =>
    match a.ratio?, b.ratio? with
    | some (m, d), some (n, e) => m * e == n * d
    | _, _ => false

/-- Whether the value can be a key: collections cannot. -/
def isKey : Value → Bool
  | .list _ | .dict _ | .set _ | .enclosing _ => false
  | _ => true

/-- Sets a field; a key that is there already keeps its place. -/
def setField (key value : Value) : List (Value × Value) → List (Value × Value)
  | [] => [(key, value)]
  | field :: fields =>
    if sameKey field.1 key then (field.1, value) :: fields else field :: setField key value fields

/-- Whether a value is a collection of a kind. -/
def isCollection (isMapping : Bool) : Value → Bool
  | .dict _ | .set _ => isMapping
  | .list _ => !isMapping
  | _ => false

/-- A value inside collections, the innermost first.  One that stands for a collection around it
is that collection. -/
def inside (around : List Value) : Value → Value
  | .enclosing isMapping =>
    (around.find? (isCollection isMapping)).getD (.enclosing isMapping)
  | value => value

/-- The value of a field with a text as its key. -/
def field? (name : String) : Value → Option Value
  | .dict fields =>
    (fields.find? fun field => sameKey field.1 (.text name)).map (·.2.inside [.dict fields])
  | _ => none

/-- Whether the value says something: null, false, zero and what is empty do not. -/
def isPresent : Value → Bool
  | .null => false
  | .bool value => value
  | .int value => value != 0
  | .float value => !value.isZero
  | .text value => !value.isEmpty
  | .bytes value => !value.isEmpty
  | .list items => !items.isEmpty
  | .dict fields => !fields.isEmpty
  | .set members => !members.isEmpty
  | _ => true

/-! ### Texts of values -/

/-- A number with leading zeros up to a width. -/
def padded (width n : Nat) : List Char :=
  let digits := (toString n).toList
  List.replicate (width - digits.length) '0' ++ digits

/-- Numbers with commas between them. -/
def commaSeparated (parts : List String) : List Char :=
  (", ".intercalate parts).toList

/-- A day as year, month and day. -/
def dateText (date : Date) : List Char :=
  padded 4 date.year ++ '-' :: (padded 2 date.month ++ '-' :: padded 2 date.day)

/-- A distance from universal time as hours and minutes. -/
def offsetText (offset : Int) : List Char :=
  (if offset < 0 then '-' else '+') ::
    (padded 2 (offset.natAbs / 3600) ++ ':' :: padded 2 (offset.natAbs / 60 % 60))

/-- A point in time as day, time of day and offset. -/
def momentText (moment : Moment) : List Char :=
  dateText moment.date ++ ' ' :: (padded 2 moment.hour ++ ':' :: (padded 2 moment.minute ++
    ':' :: padded 2 moment.second)) ++
    (if moment.microsecond = 0 then [] else '.' :: padded 6 moment.microsecond) ++
    (match moment.offset with
      | some offset => offsetText offset
      | none => [])

/-- A day as it is shown inside other values. -/
def dateShown (date : Date) : List Char :=
  "datetime.date(".toList ++
    commaSeparated [toString date.year, toString date.month, toString date.day] ++ [')']

/-- A distance from universal time as it is shown inside other values. -/
def offsetShown (offset : Int) : List Char :=
  if offset = 0 then "datetime.timezone.utc".toList
  else
    let days := Int.fdiv offset 86400
    let seconds := Int.fmod offset 86400
    let parts :=
      (if days = 0 then [] else ["days=" ++ intText days]) ++
      (if seconds = 0 then [] else ["seconds=" ++ intText seconds])
    "datetime.timezone(datetime.timedelta(".toList ++ commaSeparated parts ++ [')', ')']

/-- A point in time as it is shown inside other values. -/
def momentShown (moment : Moment) : List Char :=
  let date := moment.date
  let parts := [date.year, date.month, date.day, moment.hour, moment.minute].map toString
  let fine :=
    if moment.microsecond ≠ 0 then [toString moment.second, toString moment.microsecond]
    else if moment.second ≠ 0 then [toString moment.second]
    else []
  let zone := match moment.offset with
    | some offset => [String.ofList ("tzinfo=".toList ++ offsetShown offset)]
    | none => []
  "datetime.datetime(".toList ++ commaSeparated (parts ++ fine ++ zone) ++ [')']

mutual

/-- The value as it is shown inside other values and where a message quotes it. -/
def shownChars : Value → List Char
  | .null => "None".toList
  | .bool value => (if value then "True" else "False").toList
  | .int value => (intText value).toList
  | .float value => (value.text FloatFormat.plain).toList
  | .text value => quotedChars value.toList
  | .halved value => quotedChars value.toList codeOf
  | .bytes value => quotedBytes value
  | .date value => dateShown value
  | .moment value => momentShown value
  | .list items => '[' :: (itemChars items ++ [']'])
  | .dict fields => '\x7b' :: (fieldChars fields ++ ['\x7d'])
  | .set [] => "set()".toList
  | .set (member :: members) => '\x7b' :: (itemChars (member :: members) ++ ['\x7d'])
  | .pair first second => '(' :: (shownChars first ++ ',' :: ' ' :: (shownChars second ++ [')']))
  | .enclosing isMapping => (if isMapping then "\x7b...\x7d" else "[...]").toList

/-- Items with a comma between each two. -/
def itemChars : List Value → List Char
  | [] => []
  | [item] => shownChars item
  | item :: items => shownChars item ++ ',' :: ' ' :: itemChars items

/-- Fields with a comma between each two. -/
def fieldChars : List (Value × Value) → List Char
  | [] => []
  | [(key, value)] => shownChars key ++ ':' :: ' ' :: shownChars value
  | (key, value) :: fields =>
    shownChars key ++ ':' :: ' ' :: (shownChars value ++ ',' :: ' ' :: fieldChars fields)

end

mutual

/-- Whether every whole number in the value has few enough digits to be written. -/
def isWritable : Value → Bool
  | .int value => value.natAbs < tenTo numeralLimit
  | .list items => areWritable items
  | .dict fields => fieldsAreWritable fields
  | .set members => areWritable members
  | .pair first second => isWritable first && isWritable second
  | _ => true

/-- Whether items can be written. -/
def areWritable : List Value → Bool
  | [] => true
  | item :: items => isWritable item && areWritable items

/-- Whether fields can be written. -/
def fieldsAreWritable : List (Value × Value) → Bool
  | [] => true
  | (key, value) :: fields => isWritable key && isWritable value && fieldsAreWritable fields

end

/-- The value where a message quotes it. -/
def shown (value : Value) : String :=
  String.ofList (shownChars value)

/-- The value as a text. -/
def asText : Value → String
  | .text value | .halved value => value
  | .date value => String.ofList (dateText value)
  | .moment value => String.ofList (momentText value)
  | value => value.shown

/-- The text of the value where a message quotes it. -/
def quotedText : Value → String
  | .halved value => quotedHalves value
  | value => quoted value.asText

/-- The parts of a collection: items, keys or bytes. -/
def parts? : Value → Option (List Value)
  | .list items => some items
  | .dict fields => some (fields.map (·.1))
  | .set members => some members
  | .bytes value => some (value.map fun b => .int b.toNat)
  | .text value => some (value.toList.map fun c => .text c.toString)
  | .halved value => some (value.toList.map fun c => ofText true c.toString)
  | .pair first second => some [first, second]
  | _ => none

end Value

end PlanCycle.Yaml
