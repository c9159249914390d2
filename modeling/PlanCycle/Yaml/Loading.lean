/-
Module: PlanCycle.Yaml.Loading
Purpose: From the tree of a document to its value.
Main exports:
  Value.ofNode, Value.load
-/
import PlanCycle.Number.Reading
import PlanCycle.Text.LowerCase
import PlanCycle.Yaml.Node
import PlanCycle.Yaml.Value

namespace PlanCycle.Yaml

open Number Text

namespace Value

/-! ### Scalars -/

/-- The text of a scalar.  A mapping with a default value counts as that value. -/
def scalarText : (fuel : Nat) → Node → Except Fault String
  | 0, _ => .error .malformed
  | fuel + 1, node =>
    match node with
    | .scalar _ content => .ok content
    | .mapping _ fields =>
      let isDefault (field : Node × Node) : Bool :=
        match field.1 with
        | .scalar .value _ => true
        | _ => false
      match fields.find? isDefault with
      | some field => scalarText fuel field.2
      | none => .error .malformed
    | _ => .error .malformed

/-- The truth value of a word. -/
def truth (text : String) : Except Fault Value :=
  match truthWords.find? fun entry => entry.1.toList == lowerCase text.toList with
  | some entry => .ok (.bool entry.2)
  | none => .error .unknownWord

/-- A sign and the digits after it, underscores left out. -/
def signed (text : List Char) : Except Fault (Bool × List Char) :=
  match text.filter (· != '_') with
  | [] => .error .emptyNumber
  | '-' :: rest => .ok (true, rest)
  | '+' :: rest => .ok (false, rest)
  | rest => .ok (false, rest)

/-- A whole number in a base. -/
def based (base : Nat) (text : List Char) : Except Fault Int :=
  match readInt? base text with
  | some n => .ok n
  | none => .error .badValue

/-- A whole number: in base two, eight or sixteen by its beginning, in base sixty with
colons, else in base ten. -/
def wholeNumber (text : String) : Except Fault Value := do
  let (negative, digits) ← signed text.toList
  let n ← match digits with
    | [] => .error .emptyNumber
    | ['0'] => .ok 0
    | '0' :: 'b' :: rest => based 2 rest
    | '0' :: 'x' :: rest => based 16 rest
    | '0' :: rest => based 8 ('0' :: rest)
    | digits =>
      if ':' ∈ digits then do
        let parts ← (colonParts digits).mapM (based 10)
        .ok (parts.foldl (fun n part => 60 * n + part) 0)
      else based 10 digits
  .ok (.int (if negative then -n else n))

/-- A part of a number with a point. -/
def pointNumber (text : List Char) : Except Fault Binary64 :=
  match readFloat? text with
  | some x => .ok x
  | none => .error .badValue

/-- The sum of parts, the last counted once, the one before it sixty times, and so on;
each step is rounded. -/
def sexagesimal (parts : List Binary64) : Binary64 :=
  (parts.reverse.foldl
    (fun (state : Binary64 × Int) part =>
      (state.1.add (part.mul (.ofInt state.2)), 60 * state.2))
    (.ofInt 0, 1)).1

/-- A number with a point. -/
def realNumber (text : String) : Except Fault Value := do
  let (negative, digits) ← signed (lowerCase text.toList)
  let x ←
    if digits = ".inf".toList then .ok (.infinite false)
    else if digits = ".nan".toList then .ok .nan
    else if ':' ∈ digits then do
      let parts ← (colonParts digits).mapM pointNumber
      let greatestPlace : Binary64 := .ofInt (Nat.pow 60 (parts.length - 1))
      if greatestPlace = .infinite false then .error .overflow else .ok (sexagesimal parts)
    else pointNumber digits
  .ok (.float (if negative then x.neg else x))

/-- The value of a character in base 64. -/
def base64Digit? (c : Char) : Option Nat :=
  if c.isUpper then some (c.toNat - 65)
  else if c.isLower then some (c.toNat - 71)
  else if c.isDigit then some (c.toNat + 4)
  else if c = '+' then some 62
  else if c = '/' then some 63
  else none

/-- The bytes of a text in base 64.  Characters of other kinds are skipped.  Given are
the number of digits since the last full group, the bits left over from them, and the
number of padding characters since the last digit. -/
def base64 (position left pads : Nat) : List Char → Option (List UInt8)
  | [] => if position = 0 then some [] else none
  | c :: rest =>
    if c = '=' then
      if 2 ≤ position then
        if 4 ≤ position + pads + 1 then some [] else base64 position left (pads + 1) rest
      else base64 position left pads rest
    else
      match base64Digit? c with
      | none => base64 position left pads rest
      | some v =>
        match position with
        | 0 => base64 1 v 0 rest
        | 1 => (base64 2 (v % 16) 0 rest).map (UInt8.ofNat (left * 4 + v / 16) :: ·)
        | 2 => (base64 3 (v % 4) 0 rest).map (UInt8.ofNat (left * 16 + v / 4) :: ·)
        | _ => (base64 0 0 0 rest).map (UInt8.ofNat (left * 64 + v) :: ·)

/-- Bytes in base 64. -/
def binary (text : String) : Except Fault Value :=
  if text.toList.any (128 ≤ ·.toNat) then .error .malformed
  else
    match base64 0 0 0 text.toList with
    | some octets => .ok (.bytes octets)
    | none => .error .malformed

/-- A point in time.  A line feed may end it. -/
def timestamp (text : String) : Except Fault Value :=
  match readMoment? (Text.dropLastNewline text.toList) with
  | none => .error .notMoment
  | some written =>
    match written.time with
    | none => if written.date.isValid then .ok (.date written.date) else .error .badValue
    | some time => if time.isValid then .ok (.moment time) else .error .badValue

/-! ### Collections -/

/-- The fields of a mapping with those of the mappings that it takes over put first.  Of
several mappings in a list, the last is put first. -/
def mergedFields : (fuel : Nat) → List (Node × Node) → Except Fault (List (Node × Node))
  | 0, _ => .error .malformed
  | fuel + 1, fields => do
    let isMerge (field : Node × Node) : Bool :=
      match field.1 with
      | .scalar .merge _ => true
      | _ => false
    let own (node : Node) : Except Fault (List (Node × Node)) :=
      match node with
      | .mapping _ fields => mergedFields fuel fields
      | .enclosing true => .ok []
      | _ => .error .malformed
    let taken ← (fields.filter isMerge).mapM fun field =>
      match field.2 with
      | .sequence _ items => do
        let lists ← items.mapM own
        .ok lists.reverse.flatten
      | node => own node
    let plain := fields.filter (!isMerge ·)
    .ok (taken.flatten ++ plain)

/-- Puts fields into a mapping one after the other. -/
def collect (fields : List (Value × Value)) : List (Value × Value) :=
  fields.foldl (fun known field => setField field.1 field.2 known) []

/-! ### Nodes

A collection is filled only after all that stands around it has been read.  So of several
faults the one in the fewest collections counts, and of those the first. -/

/-- A result, or a fault with the number of collections around it. -/
abbrev Graded (α : Type) := Except (Nat × Fault) α

namespace Graded

/-- A result that is reached at once. -/
def here {α : Type} (result : Except Fault α) : Graded α :=
  result.mapError fun fault => (0, fault)

/-- The collection that is made of its contents. -/
def filled {α : Type} (make : α → Value) (contents : Graded α) : Graded Value :=
  match contents with
  | .ok contents => .ok (make contents)
  | .error (depth, fault) => .error (depth + 1, fault)

/-- Both results, or the fault that counts. -/
def both {α β : Type} (first : Graded α) (second : Graded β) : Graded (α × β) :=
  match first, second with
  | .ok a, .ok b => .ok (a, b)
  | .error fault, .ok _ => .error fault
  | .ok _, .error fault => .error fault
  | .error fault, .error later => .error (if later.1 < fault.1 then later else fault)

/-- All results, or the fault that counts. -/
def all {α : Type} : List (Graded α) → Graded (List α)
  | [] => .ok []
  | first :: rest => (both first (all rest)).map fun (a, items) => a :: items

/-- A key, which may not be a collection. -/
def key : Graded Value → Graded Value
  | .ok key => if key.isKey then .ok key else .error (0, .malformed)
  | .error (0, fault) => .error (0, fault)
  | .error _ => .error (0, .malformed)

end Graded

/-! ### Nodes -/

section

-- Escapes of the document may name halves of surrogate pairs or not.
variable (halves : Bool)

mutual

/-- The value of a node.  The fuel bounds the depth of the node. -/
def ofNode : (fuel : Nat) → Node → Graded Value
  | 0, _ => .error (0, .malformed)
  | _ + 1, .enclosing isMapping => .ok (.enclosing isMapping)
  | fuel + 1, .scalar tag content => ofTagged fuel tag (.scalar tag content)
  | fuel + 1, .sequence tag items => ofTagged fuel tag (.sequence tag items)
  | fuel + 1, .mapping tag fields => ofTagged fuel tag (.mapping tag fields)

/-- The value of a node of a kind. -/
def ofTagged (fuel : Nat) (tag : Tag) (node : Node) : Graded Value :=
  match fuel with
  | 0 => .error (0, .malformed)
  | fuel + 1 =>
    let scalar (read : String → Except Fault Value) : Graded Value :=
      .here (scalarText (fuel + 1) node >>= read)
    match tag with
    | .null => scalar fun _ => .ok .null
    | .bool => scalar truth
    | .int => scalar wholeNumber
    | .float => scalar realNumber
    | .binary => scalar binary
    | .timestamp => scalar timestamp
    | .str => scalar fun content => .ok (ofText halves content)
    | .seq =>
      match node with
      | .sequence _ items => .filled .list (.all (items.map (ofNode fuel)))
      | _ => .error (1, .malformed)
    | .map => .filled (fun fields => .dict (collect fields)) (fieldsOf fuel node)
    | .set => .filled (fun fields => .set ((collect fields).map (·.1))) (fieldsOf fuel node)
    | .omap | .pairs =>
      match node with
      | .sequence _ items =>
        .filled (fun pairs => .list (pairs.map fun (key, value) => .pair key value))
          (.all (items.map fun item =>
            match item with
            | .mapping _ [(key, value)] => .both (ofNode fuel key) (ofNode fuel value)
            | _ => .error (0, .malformed)))
      | _ => .error (1, .malformed)
    | .merge | .value | .unknown => .error (0, .malformed)

/-- The fields of a mapping node. -/
def fieldsOf (fuel : Nat) (node : Node) : Graded (List (Value × Value)) :=
  match fuel with
  | 0 => .error (0, .malformed)
  | fuel + 1 =>
    match node with
    | .mapping _ fields => do
      let fields ← Graded.here (mergedFields fuel fields)
      Graded.all (fields.map fun (key, value) =>
        match key with
        | .scalar .value content => .both (.ok (ofText halves content)) (ofNode fuel value)
        | key => .both (.key (ofNode fuel key)) (ofNode fuel value))
    | _ => .error (0, .malformed)

end

end

/-- The value of the only document of a text, null if there is no document. -/
def load (text : List Char) : Except Fault Value := do
  match ← Node.ofTokens (Tokens.ofText text) with
  | none => .ok .null
  | some node => (ofNode (namesHalf text) (10 * text.length + 20) node).mapError (·.2)

end Value

end PlanCycle.Yaml
