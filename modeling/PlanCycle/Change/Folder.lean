/-
Module: PlanCycle.Change.Folder
Purpose: The files of a change.
Main exports:
  FileContent, FileFault, Folder, Folder.read, Folder.write, Folder.append, Folder.remove
-/
import PlanCycle.Text.Utf8

namespace PlanCycle

open Text

/-- What is in a file: text, or bytes that are no text. -/
inductive FileContent where
  | text (value : String)
  | bytes (value : List UInt8)
deriving Repr, Inhabited, DecidableEq

namespace FileContent

/-- The content that consists of the given bytes. -/
def ofBytes (bytes : List UInt8) : FileContent :=
  match decode? bytes with
  | some value => .text value
  | none => .bytes bytes

/-- The content with a text added at its end. -/
def append (content : FileContent) (added : String) : FileContent :=
  match content with
  | .text value => .text (value ++ added)
  | .bytes value => .bytes (value ++ encode added)

end FileContent

/-- Every line end as a line feed. -/
def plainLineEnds : List Char → List Char
  | '\r' :: '\n' :: text => '\n' :: plainLineEnds text
  | '\r' :: text => '\n' :: plainLineEnds text
  | c :: text => c :: plainLineEnds text
  | [] => []

/-- A text without carriage returns has no other line ends. -/
theorem plainLineEnds_of_not_mem {text : List Char} (plain : '\r' ∉ text) :
    plainLineEnds text = text := by
  fun_induction plainLineEnds text with
  | case1 => exact absurd List.mem_cons_self plain
  | case2 => exact absurd List.mem_cons_self plain
  | case3 c text _ _ ih => rw [ih (List.not_mem_of_not_mem_cons plain)]
  | case4 => rfl

/-- What stands under a name. -/
inductive FolderEntry where
  | folder
  | file (content : FileContent)
deriving Repr, Inhabited, DecidableEq

/-- Why a file cannot be read or written. -/
inductive FileFault where
  | missing
  /-- A folder stands where a file is expected. -/
  | isFolder
  /-- A file stands where a folder is to be made. -/
  | inTheWay
  /-- A file stands where a folder is expected. -/
  | notFolder
  /-- The bytes of the file are no text. -/
  | notText
deriving Repr, DecidableEq

/-- Where a file stands: the names of the folders on the way and its own name. -/
abbrev FilePath := List String

/-- The entries of a folder and of the folders in it. -/
abbrev Folder := List (FilePath × FolderEntry)

namespace Folder

/-- What stands at a path. -/
def entry? (folder : Folder) (path : FilePath) : Option FolderEntry :=
  (folder.find? (·.1 == path)).map (·.2)

/-- Whether a file stands at a path. -/
def isFile (folder : Folder) (path : FilePath) : Bool :=
  match folder.entry? path with
  | some (.file _) => true
  | _ => false

/-- Whether a folder stands at a path. -/
def isFolder (folder : Folder) (path : FilePath) : Bool :=
  path.isEmpty || folder.entry? path == some .folder

/-- The folders on the way to a path, the outermost first. -/
def parents (path : FilePath) : List FilePath :=
  (List.range (path.length - 1)).map fun n => path.take (n + 1)

/-- Puts an entry in its place. -/
def put (path : FilePath) (entry : FolderEntry) : Folder → Folder
  | [] => [(path, entry)]
  | known :: folder =>
    if known.1 = path then (path, entry) :: folder else known :: put path entry folder

/-- Makes the folders on the way to a path. -/
def makeParents (path : FilePath) (folder : Folder) : Except FileFault Folder :=
  (parents path).foldlM
    (fun folder parent =>
      match entry? folder parent with
      | some .folder => .ok folder
      | some (.file _) => .error .inTheWay
      | none => .ok (folder.put parent .folder))
    folder

/-- The content of the file at a path. -/
def content (folder : Folder) (path : FilePath) : Except FileFault FileContent :=
  match folder.entry? path with
  | some (.file content) => .ok content
  | some .folder => .error .isFolder
  | none => .error (if (parents path).any folder.isFile then .notFolder else .missing)

/-- The text of the file at a path as it was written. -/
def rawText (folder : Folder) (path : FilePath) : Except FileFault String := do
  match ← folder.content path with
  | .text value => .ok value
  | .bytes _ => .error .notText

/-- The text of the file at a path, each line end a line feed. -/
def read (folder : Folder) (path : FilePath) : Except FileFault String := do
  let value ← folder.rawText path
  .ok (String.ofList (plainLineEnds value.toList))

/-- A file without carriage returns is read as it was written. -/
theorem read_of_plain {folder : Folder} {path : FilePath} {value : String}
    (written : folder.rawText path = .ok value) (plain : '\r' ∉ value.toList) :
    folder.read path = .ok value := by
  unfold Folder.read
  rw [written]
  exact congrArg Except.ok (by rw [plainLineEnds_of_not_mem plain, String.ofList_toList])

/-- The folder with a file at a path, which may replace another file. -/
def writeContent (folder : Folder) (path : FilePath) (content : FileContent) :
    Except FileFault Folder := do
  let folder ← makeParents path folder
  if folder.isFolder path then .error .isFolder else .ok (folder.put path (.file content))

/-- The folder with a text in the file at a path. -/
def write (folder : Folder) (path : FilePath) (value : String) : Except FileFault Folder :=
  folder.writeContent path (.text value)

/-- The folder with a text added to the file at a path. -/
def append (folder : Folder) (path : FilePath) (value : String) : Except FileFault Folder :=
  folder.writeContent path
    (match folder.entry? path with
      | some (.file content) => content.append value
      | _ => .text value)

/-- The folder with a folder at a path. -/
def makeFolder (folder : Folder) (path : FilePath) : Except FileFault Folder := do
  let folder ← makeParents path folder
  if folder.isFile path then .error .inTheWay else .ok (folder.put path .folder)

/-- The folder without the file at a path. -/
def remove (folder : Folder) (path : FilePath) : Folder :=
  if folder.isFile path then folder.filter (·.1 != path) else folder

/-- The names that stand directly in a folder, in order. -/
def names (folder : Folder) (path : FilePath) : List String :=
  let inside := folder.filterMap fun entry =>
    if entry.1.dropLast = path then entry.1.getLast? else none
  inside.mergeSort (· ≤ ·)

/-- The paths of all files. -/
def filePaths (folder : Folder) : List FilePath :=
  folder.filterMap fun entry =>
    match entry.2 with
    | .file _ => some entry.1
    | .folder => none

end Folder

/-- A change of a folder's files from outside. -/
inductive FileEdit where
  | write (path : FilePath) (content : FileContent)
  | makeFolder (path : FilePath)
  | remove (path : FilePath)
deriving Repr, Inhabited, DecidableEq

/-- The folder after an edit; an edit that cannot be made changes nothing. -/
def FileEdit.apply (edit : FileEdit) (folder : Folder) : Folder :=
  let result := match edit with
    | .write path content => folder.writeContent path content
    | .makeFolder path => folder.makeFolder path
    | .remove path => .ok (folder.remove path)
  match result with
  | .ok changed => changed
  | .error _ => folder

/-- The folder after edits in order. -/
def Folder.edited (folder : Folder) (edits : List FileEdit) : Folder :=
  edits.foldl (fun folder edit => edit.apply folder) folder

end PlanCycle
