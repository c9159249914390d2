/-
Module: PlanCycle.Yaml.Token
Purpose: The tokens of a YAML text.
Main exports:
  Token, Tokens, Tokens.ofText
-/
import PlanCycle.Yaml.Scalar

namespace PlanCycle.Yaml

/-!
Block structure is made explicit: tokens open and close block collections where the
indentation says so, and a key token stands before every key, also where the text has
no mark for it.  Such a key is only known when its colon is reached.  Therefore the
places where a key may have begun are remembered, one for each depth of brackets, and
the missing tokens are inserted there afterwards.
-/

/-- A directive at the start of a document. -/
inductive Directive where
  | version (major : Nat)
  | handle (handle head : String)
  | other
deriving Repr, DecidableEq

/-- A token. -/
inductive Token where
  | directive (directive : Directive)
  | documentStart
  | documentEnd
  | blockSequenceStart
  | blockMappingStart
  | blockEnd
  | flowSequenceStart
  | flowMappingStart
  | flowSequenceEnd
  | flowMappingEnd
  | key
  | value
  | blockEntry
  | flowEntry
  | alias (name : String)
  | anchor (name : String)
  | tag (handle : Option String) (suffix : String)
  | scalar (text : String) (plain : Bool)
deriving Repr, DecidableEq

/-- All tokens of a text up to its end, or up to a fault. -/
structure Tokens where
  list : List Token
  fault : Option Fault := none

/-- A place where a key may have begun. -/
structure KeyPlace where
  /-- The depth of brackets. -/
  depth : Nat
  /-- The number of tokens before the place. -/
  token : Nat
  /-- Whether nothing but a key can stand there. -/
  required : Bool
  index : Nat
  line : Nat
  column : Nat
deriving Repr

/-- The state between two tokens. -/
structure Lexer where
  cursor : Cursor
  /-- The tokens so far, last first. -/
  reversed : List Token := []
  depth : Nat := 0
  /-- The column of the innermost block, -1 outside all blocks. -/
  indent : Int := -1
  /-- The columns of the enclosing blocks, innermost first. -/
  enclosing : List Int := []
  keyAllowed : Bool := true
  keyPlaces : List KeyPlace := []

namespace Lexer

/-- Adds a token at the end. -/
def emit (lexer : Lexer) (token : Token) : Lexer :=
  { lexer with reversed := token :: lexer.reversed }

/-- Inserts a token so that the given number of tokens stand before it. -/
def insertAt (lexer : Lexer) (place : Nat) (token : Token) : Lexer :=
  let after := lexer.reversed.length - place
  { lexer with reversed := lexer.reversed.take after ++ token :: lexer.reversed.drop after }

/-- Reads the given number of characters and adds a token for them. -/
def emitMark (lexer : Lexer) (length : Nat) (token : Token) : Lexer :=
  { lexer.emit token with cursor := lexer.cursor.advanceBy length }

/-- Closes the blocks that begin right of the given column. -/
def closeBlocks (lexer : Lexer) (column : Int) : Lexer :=
  if lexer.depth != 0 then lexer
  else
    let blocks := lexer.indent :: lexer.enclosing
    let closed := (blocks.takeWhile (column < ·)).length
    match blocks.drop closed with
    | indent :: enclosing =>
      { lexer with
        reversed := List.replicate closed Token.blockEnd ++ lexer.reversed
        indent, enclosing }
    | [] => lexer

/-- Opens a block at a column right of the innermost block: whether it did, and the
state after it. -/
def openBlock (lexer : Lexer) (column : Nat) : Bool × Lexer :=
  if lexer.indent < column then
    (true, { lexer with indent := column, enclosing := lexer.indent :: lexer.enclosing })
  else (false, lexer)

/-- Forgets the places for keys that lie on an earlier line or too far back.  It is a
fault if one of them had to be a key. -/
def dropStale (lexer : Lexer) : Except Fault Lexer :=
  let isStale (place : KeyPlace) : Bool :=
    place.line != lexer.cursor.line || 1024 < lexer.cursor.index - place.index
  let (stale, kept) := lexer.keyPlaces.partition isStale
  if stale.any (·.required) then .error .malformed else .ok { lexer with keyPlaces := kept }

/-- Forgets the place for a key at the present depth.  It is a fault if it had to be a
key. -/
def dropKeyPlace (lexer : Lexer) : Except Fault Lexer :=
  let (here, kept) := lexer.keyPlaces.partition (·.depth == lexer.depth)
  if here.any (·.required) then .error .malformed else .ok { lexer with keyPlaces := kept }

/-- Remembers that a key may begin here. -/
def markKeyPlace (lexer : Lexer) : Except Fault Lexer := do
  if !lexer.keyAllowed then .ok lexer
  else
    let required := lexer.depth == 0 && lexer.indent == lexer.cursor.column
    let lexer ← lexer.dropKeyPlace
    let place : KeyPlace :=
      { depth := lexer.depth, token := lexer.reversed.length, required,
        index := lexer.cursor.index, line := lexer.cursor.line, column := lexer.cursor.column }
    .ok { lexer with keyPlaces := place :: lexer.keyPlaces }

/-- Skips spaces, comments and line ends up to the next token.  After a line end a key
may begin, except inside brackets. -/
def skipToToken : (fuel : Nat) → Lexer → Lexer
  | 0, lexer => lexer
  | fuel + 1, lexer =>
    let cursor := lexer.cursor.skipComment
    if isBreak cursor.peek then
      skipToToken fuel
        { lexer with
          cursor := cursor.lineEnd.2
          keyAllowed := lexer.keyAllowed || lexer.depth == 0 }
    else { lexer with cursor }

/-- The name that comes next. -/
def name (cursor : Cursor) : Except Fault (String × Cursor) :=
  let (name, cursor) := cursor.takeWhile isNameCharacter
  if name.isEmpty then .error .malformed else .ok (String.ofList name, cursor)

/-- Characters that may stand in a tag besides letters, digits, dashes and
underscores; escapes begin with a percent sign. -/
def isTagMark (c : Char) : Bool :=
  c ∈ [';', '/', '?', ':', '@', '&', '=', '+', '$', ',', '.', '!', '~', '*', '\'', '(', ')', '[',
    ']']

/-- Bytes that are written as a percent sign and two digits each. -/
def escapedBytes : List Char → List UInt8
  | '%' :: a :: b :: rest =>
    match Number.hexValue? a, Number.hexValue? b with
    | some high, some low => UInt8.ofNat (16 * high + low) :: escapedBytes rest
    | _, _ => []
  | _ => []

/-- The text of a tag. -/
def tagText : (fuel : Nat) → Cursor → Except Fault (List Char × Cursor)
  | 0, cursor => .ok ([], cursor)
  | fuel + 1, cursor =>
    let c := cursor.peek
    if c == '%' then
      let bytes := escapedBytes cursor.rest
      let cursor := cursor.advanceBy (3 * bytes.length)
      match String.fromUTF8? (ByteArray.mk bytes.toArray) with
      | some text =>
        if bytes.isEmpty || cursor.peek == '%' then .error .malformed
        else do
          let (more, cursor) ← tagText fuel cursor
          .ok (text.toList ++ more, cursor)
      | none => .error .malformed
    else if isNameCharacter c || isTagMark c then do
      let (more, cursor) ← tagText fuel cursor.advance
      .ok (c :: more, cursor)
    else .ok ([], cursor)

/-- The text of a tag, which may not be empty. -/
def tagSuffix (cursor : Cursor) : Except Fault (String × Cursor) := do
  let (text, cursor) ← tagText (cursor.rest.length + 1) cursor
  if text.isEmpty then .error .malformed else .ok (String.ofList text, cursor)

/-- A tag handle: an exclamation mark, or a name between two of them. -/
def tagHandle (cursor : Cursor) : Except Fault (String × Cursor) := do
  if cursor.peek != '!' then .error .malformed
  else
    let (name, after) := cursor.advance.takeWhile isNameCharacter
    if after.peek == '!' then .ok (String.ofList ('!' :: (name ++ ['!'])), after.advance)
    else if name.isEmpty && after.peek == ' ' then .ok ("!", after)
    else .error .malformed

/-- The number that comes next in a version. -/
def versionNumber (cursor : Cursor) : Except Fault (Nat × Cursor) :=
  let (digits, cursor) := cursor.takeWhile Char.isDigit
  if digits.isEmpty then .error .malformed
  else if Number.numeralLimit < digits.length then .error .badValue
  else .ok (Number.ofDigits digits, cursor)

/-- A directive, from its percent sign to the end of its line. -/
def directive (cursor : Cursor) : Except Fault (Directive × Cursor) := do
  let (name, cursor) ← name cursor.advance
  if !isSpaceOrEnd cursor.peek then .error .malformed
  else if name = "YAML" then
    let (major, cursor) ← versionNumber (cursor.skipWhile (· == ' '))
    if cursor.peek != '.' then .error .malformed
    else
      let (_, cursor) ← versionNumber cursor.advance
      if !isSpaceOrEnd cursor.peek then .error .malformed
      else .ok (.version major, ← cursor.finishLine)
  else if name = "TAG" then
    let (handle, cursor) ← tagHandle (cursor.skipWhile (· == ' '))
    if cursor.peek != ' ' then .error .malformed
    else
      let (head, cursor) ← tagSuffix (cursor.skipWhile (· == ' '))
      if !isSpaceOrEnd cursor.peek then .error .malformed
      else .ok (.handle handle head, ← cursor.finishLine)
  else .ok (.other, ← (cursor.skipWhile (!isBreakOrEnd ·)).finishLine)

/-- The name after the mark of an anchor or an alias. -/
def anchorName (cursor : Cursor) : Except Fault (String × Cursor) := do
  let (name, cursor) ← name cursor.advance
  let c := cursor.peek
  if isGapOrEnd c || c ∈ ['?', ':', ',', ']', '\x7d', '%', '@', '\x60'] then .ok (name, cursor)
  else .error .malformed

/-- A tag, from its exclamation mark on. -/
def tag (cursor : Cursor) : Except Fault (Token × Cursor) := do
  let c := cursor.peekAt 1
  let (handle, suffix, cursor) ←
    if c == '<' then do
      let (suffix, cursor) ← tagSuffix (cursor.advanceBy 2)
      if cursor.peek != '>' then .error .malformed else .ok (none, suffix, cursor.advance)
    else if isGapOrEnd c then .ok (none, "!", cursor.advance)
    else if '!' ∈ (cursor.rest.drop 1).takeWhile (!isSpaceOrEnd ·) then do
      let (handle, cursor) ← tagHandle cursor
      let (suffix, cursor) ← tagSuffix cursor
      .ok (some handle, suffix, cursor)
    else do
      let (suffix, cursor) ← tagSuffix cursor.advance
      .ok (some "!", suffix, cursor)
  if isSpaceOrEnd cursor.peek then .ok (.tag handle suffix, cursor) else .error .malformed

/-- The start or end of a document, or a directive: nothing stays open across it. -/
def separate (lexer : Lexer) : Except Fault Lexer := do
  let lexer ← (lexer.closeBlocks (-1)).dropKeyPlace
  .ok { lexer with keyAllowed := false }

/-- An opening bracket. -/
def openFlow (lexer : Lexer) (token : Token) : Except Fault Lexer := do
  let lexer := (← lexer.markKeyPlace).emitMark 1 token
  .ok { lexer with depth := lexer.depth + 1, keyAllowed := true }

/-- A closing bracket.  One without an opening bracket is a fault. -/
def closeFlow (lexer : Lexer) (token : Token) : Except Fault Lexer := do
  let lexer := (← lexer.dropKeyPlace).emitMark 1 token
  if lexer.depth = 0 then .error .malformed
  else .ok { lexer with depth := lexer.depth - 1, keyAllowed := false }

/-- In a block, opens a collection where an entry begins right of the innermost one. -/
def beginEntry (lexer : Lexer) (opening : Token) : Except Fault Lexer :=
  if lexer.depth != 0 then .ok lexer
  else if !lexer.keyAllowed then .error .malformed
  else
    match lexer.openBlock lexer.cursor.column with
    | (true, lexer) => .ok (lexer.emit opening)
    | (false, lexer) => .ok lexer

/-- The dash of a sequence entry. -/
def blockEntry (lexer : Lexer) : Except Fault Lexer := do
  let lexer ← lexer.beginEntry .blockSequenceStart
  let lexer ← { lexer with keyAllowed := true }.dropKeyPlace
  .ok (lexer.emitMark 1 .blockEntry)

/-- The question mark before a key. -/
def explicitKey (lexer : Lexer) : Except Fault Lexer := do
  let lexer ← lexer.beginEntry .blockMappingStart
  let lexer ← { lexer with keyAllowed := lexer.depth == 0 }.dropKeyPlace
  .ok (lexer.emitMark 1 .key)

/-- The colon after a key.  If a key may have begun before it, the key token and, where
the key begins a block, the block's token are inserted there. -/
def mappingValue (lexer : Lexer) : Except Fault Lexer := do
  match lexer.keyPlaces.find? (·.depth == lexer.depth) with
  | some place =>
    let lexer := { lexer with keyPlaces := lexer.keyPlaces.filter (·.depth != lexer.depth) }
    let lexer := lexer.insertAt place.token .key
    let lexer :=
      if lexer.depth != 0 then lexer
      else
        match lexer.openBlock place.column with
        | (true, lexer) => lexer.insertAt place.token .blockMappingStart
        | (false, lexer) => lexer
    .ok ({ lexer with keyAllowed := false }.emitMark 1 .value)
  | none =>
    let lexer ← lexer.beginEntry .blockMappingStart
    let lexer ← { lexer with keyAllowed := lexer.depth == 0 }.dropKeyPlace
    .ok (lexer.emitMark 1 .value)

/-- A token that may begin a key and has been read up to the given place. -/
def node (lexer : Lexer) (read : Except Fault (Token × Cursor)) : Except Fault Lexer := do
  let lexer ← lexer.markKeyPlace
  let (token, cursor) ← read
  .ok { lexer.emit token with cursor, keyAllowed := false }

/-- A block scalar. -/
def block (lexer : Lexer) (folded : Bool) : Except Fault Lexer := do
  let lexer ← { lexer with keyAllowed := true }.dropKeyPlace
  let (text, cursor) ← blockScalar folded lexer.indent lexer.cursor
  .ok { lexer.emit (.scalar (String.ofList text) false) with cursor }

/-- Whether a plain scalar may begin here. -/
def beginsPlain (lexer : Lexer) : Bool :=
  let c := lexer.cursor.peek
  let isMark := c ∈ ['-', '?', ':', ',', '[', ']', '\x7b', '\x7d', '#', '&', '*', '!', '|', '>',
    '\'', '"', '%', '@', '\x60']
  (!isGapOrEnd c && !isMark) ||
    (!isGapOrEnd (lexer.cursor.peekAt 1) &&
      (c == '-' || (lexer.depth == 0 && (c == '?' || c == ':'))))

/-- A plain scalar. -/
def plain (lexer : Lexer) : Except Fault Lexer := do
  let lexer ← lexer.markKeyPlace
  let (text, broken, cursor) := plainScalar (lexer.depth != 0) lexer.indent lexer.cursor
  .ok { lexer.emit (.scalar (String.ofList text) true) with cursor, keyAllowed := broken }

/-- Reads the next token; nothing at the end of the text. -/
def next? (lexer : Lexer) : Except Fault (Option Lexer) := do
  let lexer := lexer.skipToToken (lexer.cursor.rest.length + 1)
  let lexer ← lexer.dropStale
  let lexer := lexer.closeBlocks lexer.cursor.column
  let cursor := lexer.cursor
  let c := cursor.peek
  let inFlow := lexer.depth != 0
  let alone := isGapOrEnd (cursor.peekAt 1)
  let quoted (read : Except Fault (List Char × Cursor)) : Except Fault (Token × Cursor) :=
    read.map fun found => (.scalar (String.ofList found.1) false, found.2)
  if c == endMark then
    .ok none
  else if c == '%' && cursor.column == 0 then
    let lexer ← lexer.separate
    let (directive, cursor) ← directive lexer.cursor
    .ok (some { lexer.emit (.directive directive) with cursor })
  else if cursor.column == 0 && cursor.atSeparator then
    let lexer ← lexer.separate
    .ok (some (lexer.emitMark 3 (if c == '-' then .documentStart else .documentEnd)))
  else if c == '[' then some <$> lexer.openFlow .flowSequenceStart
  else if c == '\x7b' then some <$> lexer.openFlow .flowMappingStart
  else if c == ']' then some <$> lexer.closeFlow .flowSequenceEnd
  else if c == '\x7d' then some <$> lexer.closeFlow .flowMappingEnd
  else if c == ',' then
    let lexer ← { lexer with keyAllowed := true }.dropKeyPlace
    .ok (some (lexer.emitMark 1 .flowEntry))
  else if c == '-' && alone then some <$> lexer.blockEntry
  else if c == '?' && (inFlow || alone) then some <$> lexer.explicitKey
  else if c == ':' && (inFlow || alone) then some <$> lexer.mappingValue
  else if c == '*' then
    some <$> lexer.node ((anchorName cursor).map fun found => (.alias found.1, found.2))
  else if c == '&' then
    some <$> lexer.node ((anchorName cursor).map fun found => (.anchor found.1, found.2))
  else if c == '!' then some <$> lexer.node (tag cursor)
  else if c == '|' && !inFlow then some <$> lexer.block false
  else if c == '>' && !inFlow then some <$> lexer.block true
  else if c == '\'' || c == '"' then some <$> lexer.node (quoted (quotedScalar cursor))
  else if lexer.beginsPlain then some <$> lexer.plain
  else .error .malformed

/-- Closes what is open at the end of the text. -/
def finish (lexer : Lexer) : Tokens :=
  match (lexer.closeBlocks (-1)).dropKeyPlace with
  | .ok lexer => ⟨lexer.reversed.reverse, none⟩
  | .error fault => ⟨lexer.reversed.reverse, some fault⟩

/-- Reads all tokens. -/
def run : (fuel : Nat) → Lexer → Tokens
  | 0, lexer => ⟨lexer.reversed.reverse, some .malformed⟩
  | fuel + 1, lexer =>
    match lexer.next? with
    | .ok (some lexer) => lexer.run fuel
    | .ok none => lexer.finish
    | .error fault => ⟨lexer.reversed.reverse, some fault⟩

end Lexer

/-- The tokens of a text. -/
def Tokens.ofText (text : List Char) : Tokens :=
  if text.all isAllowed then
    let cursor : Cursor := { rest := text }
    let cursor := if cursor.peek == byteOrderMark then cursor.advance else cursor
    { cursor : Lexer }.run (text.length + 1)
  else ⟨[], some .malformed⟩

end PlanCycle.Yaml
