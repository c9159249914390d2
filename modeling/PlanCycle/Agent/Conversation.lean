/-
Module: PlanCycle.Agent.Conversation
Purpose: Finding a conversation in the list that the generator's program prints.
Main exports:
  listEntry?, sessionIndex, SessionLister, SessionLister.resolve
-/
import PlanCycle.Agent.Process
import PlanCycle.Text.LowerCase
import PlanCycle.Text.Within

namespace PlanCycle

open Number Text

/-!
The list has a line with the words `Available sessions` and one line for each conversation:
a number and a point, blanks, any text, and the id of the conversation in brackets.
-/

/-- The characters of an id. -/
def isSessionIdPart (c : Char) : Bool :=
  c.isAlphanum || c == '-'

/-- The id in brackets that a text begins with. -/
def bracketedId? : List Char → Option (List Char)
  | '[' :: text =>
    match text.takeWhile isSessionIdPart, text.dropWhile isSessionIdPart with
    | c :: id, ']' :: _ => some (c :: id)
    | _, _ => none
  | _ => none

/-- The last id in brackets. -/
def lastBracketedId? : List Char → Option (List Char)
  | [] => none
  | c :: text =>
    match lastBracketedId? text with
    | some id => some id
    | none => bracketedId? (c :: text)

/-- The number, as it is written, and the id of a line that is an entry. -/
def listEntry? (line : List Char) : Option (List Char × List Char) :=
  let line := dropBlank line
  match line.takeWhile isDecimal, line.dropWhile isDecimal with
  | digit :: digits, '.' :: c :: rest =>
    if isBlank c then (lastBracketedId? (dropBlank rest)).map fun id => (digit :: digits, id)
    else none
  | _, _ => none

/-- Why a list does not give the index of a conversation. -/
inductive ListFault where
  | noHeader
  | noEntries
  | notListed (id : String)
  /-- An index with too many digits. -/
  | longIndex
deriving Repr, DecidableEq

/-- Whether the header is somewhere in a list, in any mix of letter cases. -/
def hasListHeader (listing : List Char) : Bool :=
  occursIn "available sessions".toList (lowerCase listing)

/-- The index of a conversation in a list. -/
def sessionIndex (listing id : String) : Except ListFault Int :=
  if hasListHeader listing.toList then
    let entries := (splitLines listing.toList).filterMap listEntry?
    match entries.find? (·.2 == id.toList) with
    | some entry =>
      match readInt? 10 entry.1 with
      | some index => .ok index
      | none => .error .longIndex
    | none => .error (if entries.isEmpty then .noEntries else .notListed id)
  else .error .noHeader

/-- What stops the search for a conversation in a list. -/
def ListFault.stop : ListFault → Stop
  | .noHeader => .failure (.session .noHeader)
  | .noEntries => .failure (.session .noEntries)
  | .notListed id => .failure (.session (.notListed id))
  | .longIndex => .breakdown .longIndex

/-- The program that lists conversations. -/
structure SessionLister where
  words : List String
  /-- In seconds. -/
  timeout : Int
deriving Repr, DecidableEq

namespace SessionLister

/-- The configured program. -/
def standard? (settings : Settings) : Option SessionLister :=
  (shellWords settings.geminiCommand).map fun words =>
    ⟨words ++ ["--list-sessions"], settings.listingTimeout⟩

/-- How the run of the program is seen. -/
def spawn (lister : SessionLister) (directory : Path) (result : ProcessResult) : Spawn :=
  { words := lister.words, directory, killed := result.killed }

/-- The list that a run of the program prints. -/
def listing (lister : SessionLister) : ProcessResult → Except SessionFailure String
  | .unstartable reason => .error (.unstartable (lister.words.headD "") reason)
  | .timedOut => .error (.timedOut lister.timeout)
  | .exited status stdout stderr =>
    if status = 0 then .ok stdout
    else
      let detail := trimmed stderr
      .error (.exited status (if detail.isEmpty then "no stderr output" else detail))

/-- The index of a conversation, as a run of the program gives it. -/
def resolve (lister : SessionLister) (result : ProcessResult) (id : String) :
    Except Stop Int := do
  let listing ← (lister.listing result).mapError fun failure => .failure (.session failure)
  (sessionIndex listing id).mapError ListFault.stop

end SessionLister

end PlanCycle
