/-
Module: PlanCycle.Yaml.Scalar
Purpose: Reading the three kinds of scalars: block, quoted and plain.
Main exports:
  blockScalar, quotedScalar, plainScalar
-/
import PlanCycle.Yaml.Cursor
import PlanCycle.Text.Surrogate
import PlanCycle.Number.Numeral

namespace PlanCycle.Yaml

/-! ### Block scalars -/

/-- What to do with the line ends at the end of a block scalar. -/
inductive Chomping where
  | strip
  | clip
  | keep
deriving Repr, DecidableEq

/-- Line ends and the spaces before the given column. -/
def blankLines (indent : Nat) : (fuel : Nat) → Cursor → List Char × Cursor
  | 0, cursor => ([], cursor)
  | fuel + 1, cursor =>
    let spaces := (cursor.rest.takeWhile (· == ' ')).take (indent - cursor.column)
    let cursor := cursor.advanceBy spaces.length
    if isBreak cursor.peek then
      let (ended, cursor) := cursor.lineEnd
      let (more, cursor) := blankLines indent fuel cursor
      (ended ++ more, cursor)
    else ([], cursor)

/-- Leading blank lines of a block scalar, and the largest column that they reach. -/
def leadingLines : (fuel widest : Nat) → Cursor → List Char × Nat × Cursor
  | 0, widest, cursor => ([], widest, cursor)
  | fuel + 1, widest, cursor =>
    if cursor.peek == ' ' then
      let cursor := cursor.advance
      leadingLines fuel (max widest cursor.column) cursor
    else if isBreak cursor.peek then
      let (ended, cursor) := cursor.lineEnd
      let (more, widest, cursor) := leadingLines fuel widest cursor
      (ended ++ more, widest, cursor)
    else ([], widest, cursor)

/-- Whether the next character is a space or a tab. -/
def atWhite (cursor : Cursor) : Bool :=
  cursor.peek == ' ' || cursor.peek == '\t'

/-- The lines of a block scalar at the given indentation.  Returned are the text
without the last line end, that line end, and the blank lines after it. -/
def blockLines (folded : Bool) (indent : Nat) :
    (fuel : Nat) → (breaks : List Char) → Cursor → List Char × List Char × List Char × Cursor
  | 0, breaks, cursor => ([], [], breaks, cursor)
  | fuel + 1, breaks, cursor =>
    let firstWhite := atWhite cursor
    let (line, cursor) := cursor.takeWhile (!isBreakOrEnd ·)
    let (ended, cursor) := cursor.lineEnd
    let (after, cursor) := blankLines indent (cursor.rest.length + 1) cursor
    if cursor.column == indent && cursor.peek != endMark then
      let joint :=
        if folded && ended == ['\n'] && !firstWhite && !atWhite cursor then
          (if after.isEmpty then [' '] else [])
        else ended
      let (text, last, trailing, cursor) := blockLines folded indent fuel after cursor
      (breaks ++ line ++ joint ++ text, last, trailing, cursor)
    else (breaks ++ line, ended, after, cursor)

/-- The indicators after the opening mark of a block scalar. -/
def blockHeader (cursor : Cursor) : Except Fault (Chomping × Option Nat × Cursor) := do
  let chomping (c : Char) : Option Chomping :=
    if c == '+' then some .keep else if c == '-' then some .strip else none
  let digit (c : Char) : Option Nat := if c.isDigit then some (c.toNat - 48) else none
  let (style, width, cursor) :=
    match chomping cursor.peek, digit cursor.peek with
    | some style, _ =>
      match digit (cursor.peekAt 1) with
      | some n => (style, some n, cursor.advanceBy 2)
      | none => (style, none, cursor.advance)
    | none, some n =>
      match chomping (cursor.peekAt 1) with
      | some style => (style, some n, cursor.advanceBy 2)
      | none => (.clip, some n, cursor.advance)
    | none, none => (.clip, none, cursor)
  if width == some 0 || !isSpaceOrEnd cursor.peek then .error .malformed
  else .ok (style, width, cursor)

/-- A block scalar that begins at its mark.  The indentation of the enclosing block is
given, which is -1 outside all blocks. -/
def blockScalar (folded : Bool) (enclosing : Int) (cursor : Cursor) :
    Except Fault (List Char × Cursor) := do
  let (chomping, width, cursor) ← blockHeader cursor.advance
  let cursor ← cursor.finishLine
  let least := (max 1 (enclosing + 1)).toNat
  let fuel := cursor.rest.length + 1
  let (indent, breaks, cursor) :=
    match width with
    | some n =>
      let indent := least + n - 1
      let (breaks, cursor) := blankLines indent fuel cursor
      (indent, breaks, cursor)
    | none =>
      let (breaks, widest, cursor) := leadingLines fuel 0 cursor
      (max least widest, breaks, cursor)
  let (text, last, trailing, cursor) :=
    if cursor.column == indent && cursor.peek != endMark then
      blockLines folded indent fuel breaks cursor
    else ([], [], breaks, cursor)
  let closing := match chomping with
    | .strip => []
    | .clip => last
    | .keep => last ++ trailing
  .ok (text ++ closing, cursor)

/-! ### Quoted scalars -/

/-- The character that a backslash and a letter stand for. -/
def escaped? (c : Char) : Option Char :=
  match c with
  | '0' => some '\x00'
  | 'a' => some '\x07'
  | 'b' => some '\x08'
  | 't' | '\t' => some '\t'
  | 'n' => some '\n'
  | 'v' => some '\x0B'
  | 'f' => some '\x0C'
  | 'r' => some '\r'
  | 'e' => some '\x1B'
  | ' ' => some ' '
  | '"' => some '"'
  | '\\' => some '\\'
  | '/' => some '/'
  | 'N' => some (Char.ofNat 0x85)
  | '_' => some (Char.ofNat 0xA0)
  | 'L' => some (Char.ofNat 0x2028)
  | 'P' => some (Char.ofNat 0x2029)
  | _ => none

/-- How many hexadecimal digits follow a letter after a backslash. -/
def escapeWidth? (c : Char) : Option Nat :=
  match c with
  | 'x' => some 2
  | 'u' => some 4
  | 'U' => some 8
  | _ => none

/-- The number that hexadecimal digits stand for. -/
def hexNumber? (digits : List Char) : Option Nat :=
  digits.foldlM (fun n c => (Number.hexValue? c).map (16 * n + ·)) 0

/-- Line ends inside quotes, with the white space around them left out. -/
def quotedBreaks : (fuel : Nat) → Cursor → Except Fault (List Char × Cursor)
  | 0, cursor => .ok ([], cursor)
  | fuel + 1, cursor =>
    if cursor.atSeparator then .error .malformed
    else
      let cursor := cursor.skipWhile fun c => c == ' ' || c == '\t'
      if isBreak cursor.peek then do
        let (ended, cursor) := cursor.lineEnd
        let (more, cursor) ← quotedBreaks fuel cursor
        .ok (ended ++ more, cursor)
      else .ok ([], cursor)

/-- White space inside quotes.  One line end counts as a space, further ones as
themselves. -/
def quotedSpace (cursor : Cursor) : Except Fault (List Char × Cursor) := do
  let (white, cursor) := cursor.takeWhile fun c => c == ' ' || c == '\t'
  if cursor.peek == endMark then .error .malformed
  else if isBreak cursor.peek then
    let (ended, cursor) := cursor.lineEnd
    let (breaks, cursor) ← quotedBreaks (cursor.rest.length + 1) cursor
    let joint := if ended != ['\n'] then ended else if breaks.isEmpty then [' '] else []
    .ok (joint ++ breaks, cursor)
  else .ok (white, cursor)

/-- The code point that so many digits name. -/
def codePoint? (width : Nat) (text : List Char) : Option Nat :=
  let digits := text.take width
  if digits.length = width then hexNumber? digits else none

/-- Whether a text begins with an escape that names a half of a surrogate pair. -/
def beginsHalf : List Char → Bool
  | '\\' :: c :: rest =>
    ((escapeWidth? c).bind fun width => codePoint? width rest).any Text.isSurrogate
  | _ => false

/-- Whether a text holds an escape that names a half of a surrogate pair. -/
def namesHalf : List Char → Bool
  | [] => false
  | c :: text => beginsHalf (c :: text) || namesHalf text

/-- What a backslash introduces inside double quotes; the cursor stands after it. -/
def quotedEscape (cursor : Cursor) : Except Fault (List Char × Cursor) :=
  let c := cursor.peek
  match escaped? c, escapeWidth? c with
  | some meant, _ => .ok ([meant], cursor.advance)
  | none, some width =>
    let cursor := cursor.advance
    match codePoint? width cursor.rest with
    | none => .error .malformed
    | some n =>
      if 0x110000 ≤ n then .error .badValue
      else
        let meant := if Text.isSurrogate n then Text.halfOf n else Char.ofNat n
        .ok ([meant], cursor.advanceBy width)
  | none, none =>
    if isBreak c then
      let cursor := cursor.lineEnd.2
      quotedBreaks (cursor.rest.length + 1) cursor
    else .error .malformed

/-- The text up to the closing quote, which is read too. -/
def quotedBody (quote : Char) : (fuel : Nat) → Cursor → Except Fault (List Char × Cursor)
  | 0, _ => .error .malformed
  | fuel + 1, cursor =>
    let c := cursor.peek
    if c == quote then
      if quote == '\'' && cursor.peekAt 1 == '\'' then do
        let (more, cursor) ← quotedBody quote fuel (cursor.advanceBy 2)
        .ok ('\'' :: more, cursor)
      else .ok ([], cursor.advance)
    else if c == '\\' && quote == '"' then do
      let (part, cursor) ← quotedEscape cursor.advance
      let (more, cursor) ← quotedBody quote fuel cursor
      .ok (part ++ more, cursor)
    else if isGapOrEnd c then do
      let (part, cursor) ← quotedSpace cursor
      let (more, cursor) ← quotedBody quote fuel cursor
      .ok (part ++ more, cursor)
    else do
      let (more, cursor) ← quotedBody quote fuel cursor.advance
      .ok (c :: more, cursor)

/-- A quoted scalar that begins at its opening quote. -/
def quotedScalar (cursor : Cursor) : Except Fault (List Char × Cursor) :=
  quotedBody cursor.peek (cursor.rest.length + 1) cursor.advance

/-! ### Plain scalars -/

/-- The characters that come next up to one that may end a plain scalar. -/
def plainWord (inFlow : Bool) : List Char → List Char
  | [] => []
  | c :: rest =>
    let next := rest.headD endMark
    let isFlowMark (c : Char) := c ∈ [',', '[', ']', '\x7b', '\x7d']
    if isGapOrEnd c then []
    else if c == ':' && (isGapOrEnd next || (inFlow && isFlowMark next)) then []
    else if inFlow && (isFlowMark c || c == '?') then []
    else c :: plainWord inFlow rest

/-- Blank lines and spaces inside a plain scalar; nothing at a separator. -/
def plainBreaks : (fuel : Nat) → Cursor → Option (List Char) × Cursor
  | 0, cursor => (some [], cursor)
  | fuel + 1, cursor =>
    if cursor.peek == ' ' then plainBreaks fuel cursor.advance
    else if isBreak cursor.peek then
      let (ended, cursor) := cursor.lineEnd
      if cursor.atSeparator then (none, cursor)
      else
        let (more, cursor) := plainBreaks fuel cursor
        (more.map (ended ++ ·), cursor)
    else (some [], cursor)

/-- White space after a word of a plain scalar: the text that it counts as, or nothing
where the scalar ends, and whether a line end was passed. -/
def plainSpace (cursor : Cursor) : Option (List Char) × Bool × Cursor :=
  let (white, cursor) := cursor.takeWhile (· == ' ')
  if isBreak cursor.peek then
    let (ended, cursor) := cursor.lineEnd
    if cursor.atSeparator then (none, true, cursor)
    else
      let (breaks, cursor) := plainBreaks (cursor.rest.length + 1) cursor
      let joint (breaks : List Char) :=
        if ended != ['\n'] then ended else if breaks.isEmpty then [' '] else []
      (breaks.map fun breaks => joint breaks ++ breaks, true, cursor)
  else (if white.isEmpty then none else some white, false, cursor)

/-- The words of a plain scalar, with the white space before the first of them.  Also
returned is whether the last thing read was a line end. -/
def plainWords (inFlow : Bool) (indent : Int) :
    (fuel : Nat) → (before : List Char) → (broken : Bool) → Cursor → List Char × Bool × Cursor
  | 0, _, broken, cursor => ([], broken, cursor)
  | fuel + 1, before, broken, cursor =>
    let word := plainWord inFlow cursor.rest
    if cursor.peek == '#' || word.isEmpty then ([], broken, cursor)
    else
      let cursor := cursor.advanceBy word.length
      let (space, passed, cursor) := plainSpace cursor
      match space with
      | none => (before ++ word, passed, cursor)
      | some space =>
        if cursor.peek == '#' || (!inFlow && (cursor.column : Int) < indent) then
          (before ++ word, passed, cursor)
        else
          let (more, broken, cursor) := plainWords inFlow indent fuel space passed cursor
          (before ++ word ++ more, broken, cursor)

/-- A plain scalar that begins here, and whether a line end was passed after it. -/
def plainScalar (inFlow : Bool) (enclosing : Int) (cursor : Cursor) : List Char × Bool × Cursor :=
  plainWords inFlow (enclosing + 1) (cursor.rest.length + 1) [] false cursor

end PlanCycle.Yaml
