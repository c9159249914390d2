/-
Module: PlanCycle.Yaml.Node
Purpose: The tree of a YAML document.
Main exports:
  Node, Node.ofTokens
-/
import PlanCycle.Yaml.Tag
import PlanCycle.Yaml.Token

namespace PlanCycle.Yaml

/-- A node of a document.  An alias stands for a copy of the node that it names. -/
inductive Node where
  | scalar (tag : Tag) (text : String)
  | sequence (tag : Tag) (items : List Node)
  | mapping (tag : Tag) (fields : List (Node × Node))
  /-- An alias inside the very collection that it names. -/
  | enclosing (isMapping : Bool)
deriving Repr, Inhabited

namespace Node

/-- The node where nothing is written. -/
def empty : Node := .scalar .null ""

/-- What an anchor names: a finished node, or a collection still being read. -/
inductive Anchored where
  | finished (node : Node)
  | unfinished (isMapping : Bool)

/-- The state of reading: the tokens to come, the anchors so far, and what the tag
handles of the document stand for. -/
structure Progress where
  tokens : Tokens
  anchors : List (String × Anchored) := []
  handles : List (String × String)

/-- A step of reading. -/
abbrev Reading := StateT Progress (Except Fault)

/-- The next token; nothing at the end of the text. -/
def peek : Reading (Option Token) := do
  let progress ← get
  match progress.tokens.list, progress.tokens.fault with
  | token :: _, _ => return some token
  | [], none => return none
  | [], some fault => throw fault

/-- Leaves the next token behind. -/
def skip : Reading Unit :=
  modify fun progress =>
    { progress with tokens := { progress.tokens with list := progress.tokens.list.drop 1 } }

/-- Leaves the next token behind if it is the given one: whether it was. -/
def skipIf (token : Token) : Reading Bool := do
  if (← peek) = some token then
    skip
    return true
  else return false

/-- Whether one of the tokens comes next. -/
def nextIn (tokens : List Token) : Reading Bool := do
  match ← peek with
  | some token => return token ∈ tokens
  | none => return false

/-- The tag that is written, by its full name. -/
def fullTag (handle : Option String) (suffix : String) : Reading String := do
  match handle with
  | none => return suffix
  | some handle =>
    match (← get).handles.find? (·.1 == handle) with
    | some entry => return entry.2 ++ suffix
    | none => throw .malformed

/-- The anchor and the tag before a node, in either order. -/
def properties : Reading (Option String × Option String) := do
  match ← peek with
  | some (.anchor name) =>
    skip
    match ← peek with
    | some (.tag handle suffix) =>
      skip
      return (some name, some (← fullTag handle suffix))
    | _ => return (some name, none)
  | some (.tag handle suffix) =>
    skip
    match ← peek with
    | some (.anchor name) =>
      skip
      return (some name, some (← fullTag handle suffix))
    | _ => return (none, some (← fullTag handle suffix))
  | _ => return (none, none)

/-- Records what an anchor names. -/
def setAnchor (name : Option String) (node : Anchored) : Reading Unit := do
  match name with
  | some name => modify fun progress =>
    { progress with anchors := (name, node) :: progress.anchors }
  | none => return

/-- The node that an alias names. -/
def named (name : String) : Reading Node := do
  match (← get).anchors.find? (·.1 == name) with
  | some (_, .finished node) => return node
  | some (_, .unfinished isMapping) => return .enclosing isMapping
  | none => throw .malformed

/-- The kind of a collection whose tag may be missing or left open. -/
def collectionTag (tag : Option String) (default : Tag) : Tag :=
  match tag with
  | none => default
  | some name => if name = "!" then default else Tag.ofName name

/-- The kind of a scalar.  A quoted one without a tag is a text. -/
def scalarTag (tag : Option String) (text : String) (plain : Bool) : Tag :=
  match tag with
  | none => if plain then Tag.ofPlain text else .str
  | some name => if name = "!" then Tag.ofPlain text else Tag.ofName name

mutual

/-- A node.  Block collections are allowed if asked for, and so is a sequence without
indentation of its own. -/
def read : (fuel : Nat) → (block indentless : Bool) → Reading Node
  | 0, _, _ => throw .malformed
  | fuel + 1, block, indentless => do
    if let some (.alias name) ← peek then
      skip
      named name
    else
      let (anchor, tag) ← properties
      if let some name := anchor then
        if (← get).anchors.any (·.1 == name) then throw .malformed
      let sequence (items : Reading (List Node)) : Reading Node := do
        setAnchor anchor (.unfinished false)
        return .sequence (collectionTag tag .seq) (← items)
      let mapping (fields : Reading (List (Node × Node))) : Reading Node := do
        setAnchor anchor (.unfinished true)
        return .mapping (collectionTag tag .map) (← fields)
      let node ← match ← peek with
        | some (.scalar text plain) =>
          skip
          pure (.scalar (scalarTag tag text plain) text)
        | some .flowSequenceStart =>
          skip
          sequence (flowItems fuel true)
        | some .flowMappingStart =>
          skip
          mapping (flowFields fuel true)
        | token =>
          if indentless && token == some .blockEntry then sequence (indentlessItems fuel)
          else if block && token == some .blockSequenceStart then
            skip
            sequence (blockItems fuel)
          else if block && token == some .blockMappingStart then
            skip
            mapping (blockFields fuel)
          else if anchor.isSome || tag.isSome then pure (.scalar (scalarTag tag "" true) "")
          else throw .malformed
      setAnchor anchor (.finished node)
      return node

/-- A node, or the empty one where one of the given tokens comes next. -/
def readUnless : (fuel : Nat) → (block indentless : Bool) → List Token → Reading Node
  | 0, _, _, _ => throw .malformed
  | fuel + 1, block, indentless, tokens => do
    if ← nextIn tokens then return empty else read fuel block indentless

/-- The entries of a block sequence, and its end. -/
def blockItems : (fuel : Nat) → Reading (List Node)
  | 0 => throw .malformed
  | fuel + 1 => do
    if ← skipIf .blockEntry then
      let item ← readUnless fuel true false [.blockEntry, .blockEnd]
      return item :: (← blockItems fuel)
    else if ← skipIf .blockEnd then return []
    else throw .malformed

/-- The entries of a sequence that has no indentation of its own. -/
def indentlessItems : (fuel : Nat) → Reading (List Node)
  | 0 => throw .malformed
  | fuel + 1 => do
    if ← skipIf .blockEntry then
      let item ← readUnless fuel true false [.blockEntry, .key, .value, .blockEnd]
      return item :: (← indentlessItems fuel)
    else return []

/-- The fields of a block mapping, and its end. -/
def blockFields : (fuel : Nat) → Reading (List (Node × Node))
  | 0 => throw .malformed
  | fuel + 1 => do
    if ← skipIf .key then
      let key ← readUnless fuel true true [.key, .value, .blockEnd]
      let value ←
        if ← skipIf .value then readUnless fuel true true [.key, .value, .blockEnd]
        else pure empty
      return (key, value) :: (← blockFields fuel)
    else if ← skipIf .blockEnd then return []
    else throw .malformed

/-- The items of a sequence in brackets, and the closing bracket.  A key with its value
is an item too, as a mapping of one field. -/
def flowItems : (fuel : Nat) → (first : Bool) → Reading (List Node)
  | 0, _ => throw .malformed
  | fuel + 1, first => do
    if ← skipIf .flowSequenceEnd then return []
    else
      unless first do
        unless ← skipIf .flowEntry do throw .malformed
      if ← skipIf .key then
        let key ← readUnless fuel false false [.value, .flowEntry, .flowSequenceEnd]
        let value ←
          if ← skipIf .value then readUnless fuel false false [.flowEntry, .flowSequenceEnd]
          else pure empty
        return .mapping .map [(key, value)] :: (← flowItems fuel false)
      else if ← skipIf .flowSequenceEnd then return []
      else
        let item ← read fuel false false
        return item :: (← flowItems fuel false)

/-- The fields of a mapping in braces, and the closing brace. -/
def flowFields : (fuel : Nat) → (first : Bool) → Reading (List (Node × Node))
  | 0, _ => throw .malformed
  | fuel + 1, first => do
    if ← skipIf .flowMappingEnd then return []
    else
      unless first do
        unless ← skipIf .flowEntry do throw .malformed
      if ← skipIf .key then
        let key ← readUnless fuel false false [.value, .flowEntry, .flowMappingEnd]
        let value ←
          if ← skipIf .value then readUnless fuel false false [.flowEntry, .flowMappingEnd]
          else pure empty
        return (key, value) :: (← flowFields fuel false)
      else if ← skipIf .flowMappingEnd then return []
      else
        let key ← read fuel false false
        return (key, empty) :: (← flowFields fuel false)

end

/-- The handles that need no directive. -/
def standardHandles : List (String × String) :=
  [("!", "!"), ("!!", Tag.standardHead)]

/-- The directives before a document: what they make of the tag handles. -/
def directives : (fuel : Nat) → (versioned : Bool) → Reading Unit
  | 0, _ => throw .malformed
  | fuel + 1, versioned => do
    match ← peek with
    | some (.directive (.version major)) =>
      skip
      if versioned || major != 1 then throw .malformed
      directives fuel true
    | some (.directive (.handle handle head)) =>
      skip
      if (← get).handles.any (·.1 == handle) then throw .malformed
      modify fun progress => { progress with handles := (handle, head) :: progress.handles }
      directives fuel versioned
    | some (.directive .other) =>
      skip
      directives fuel versioned
    | _ => return

/-- Whether the next token begins or ends a document. -/
def atDocumentBorder : Reading Bool := do
  match ← peek with
  | none => return true
  | some (.directive _) => return true
  | some token => return token = .documentStart ∨ token = .documentEnd

/-- Skips the marks for the end of a document. -/
def skipDocumentEnds : (fuel : Nat) → Reading Unit
  | 0 => return
  | fuel + 1 => do if ← skipIf .documentEnd then skipDocumentEnds fuel

/-- The only document of a text; nothing if the text holds none. -/
def document (fuel : Nat) : Reading (Option Node) := do
  match ← peek with
  | none => return none
  | some token =>
    let explicit := match token with
      | .directive _ => true
      | .documentStart => true
      | _ => false
    let node ←
      if explicit then
        modify fun progress => { progress with handles := [] }
        directives fuel false
        modify fun progress => { progress with handles := progress.handles ++ standardHandles }
        unless ← skipIf .documentStart do throw .malformed
        if ← atDocumentBorder then pure empty else read fuel true false
      else read fuel true false
    skipDocumentEnds fuel
    match ← peek with
    | none => return some node
    | some _ => throw .malformed

/-- The only document that the tokens form; nothing if there are none. -/
def ofTokens (tokens : Tokens) : Except Fault (Option Node) :=
  (document (3 * tokens.list.length + 10)).run' { tokens, handles := standardHandles }

end Node

end PlanCycle.Yaml
