/-
Module: PlanCycle.Proofs.DocumentPaths
Purpose: The names of documents and where their files stand: in the folder of the change or in its
  folder of specs, each name at a path of its own.  A request by any other name is refused.
Main exports:
  IsSpelledId, IsDocumentName, IsFileName, IsDocumentPlace, Artifact.ofName_eq_ok_iff,
  Path.text_injective, names_stand_for_places
-/
import PlanCycle.Change.Request
import PlanCycle.Proofs.KeptFiles
import PlanCycle.Proofs.SpecNames

namespace PlanCycle

open Text

/-- Whether a text is spelled as the id of a spec: a letter or digit, then letters, digits,
underscores, points and dashes, and a line feed at the end or none. -/
inductive IsSpelledId : List Char → Prop
  | mk {c : Char} {rest ending : List Char} (start : isIdStart c = true)
      (parts : ∀ d ∈ rest, isIdPart d = true) (ended : ending ∈ [[], ['\n']]) :
      IsSpelledId (c :: rest ++ ending)

/-- The names that stand for documents. -/
inductive IsDocumentName : String → Prop
  | proposal : IsDocumentName "proposal"
  | tasks : IsDocumentName "tasks"
  | challenge : IsDocumentName "challenge"
  | spec {id : String} (spelled : IsSpelledId id.toList) : IsDocumentName ("specs/" ++ id)

/-- Whether a name stands for a file in the folder in which it is looked up, and nowhere else. -/
structure IsFileName (name : String) : Prop where
  unseparated : '/' ∉ name.toList ∧ '\\' ∉ name.toList
  undotted : name ≠ "." ∧ name ≠ ".."

/-- The places of documents: three files directly in the folder of the change, and files directly in
its folder of specs. -/
inductive IsDocumentPlace : FilePath → Prop
  | own {name : String} (known : name ∈ ["proposal.md", "tasks.md", "CHALLENGE.md"])
      (isName : IsFileName name) : IsDocumentPlace [name]
  | spec {name : String} (isName : IsFileName name) : IsDocumentPlace ["specs", name]

/-! ### Ids as they are spelled -/

namespace Text

theorem exists_dropLastNewline (text : List Char) :
    ∃ ending ∈ [[], ['\n']], text = dropLastNewline text ++ ending := by
  unfold dropLastNewline
  split
  · rename_i last
    exact ⟨['\n'], by decide, (List.dropLast_append_getLast? _ last).symm⟩
  · exact ⟨[], by decide, (List.append_nil _).symm⟩

theorem dropLastNewline_append {text ending : List Char} (unended : text.getLast? ≠ some '\n')
    (ended : ending ∈ [[], ['\n']]) : dropLastNewline (text ++ ending) = text := by
  simp only [List.mem_cons, List.not_mem_nil, or_false] at ended
  unfold dropLastNewline
  rcases ended with rfl | rfl
  · rw [List.append_nil, if_neg unended]
  · rw [List.getLast?_concat, if_pos rfl, List.dropLast_concat]

end Text

theorem IsSpelledId.parts_of {c : Char} {rest : List Char} (start : isIdStart c = true)
    (parts : ∀ d ∈ rest, isIdPart d = true) : ∀ d ∈ c :: rest, isIdPart d = true :=
  List.forall_mem_cons.mpr ⟨by simp [isIdPart, show c.isAlphanum = true from start], parts⟩

theorem isSpecId_iff {id : List Char} : isSpecId id = true ↔ IsSpelledId id := by
  constructor
  · intro valid
    obtain ⟨ending, ended, whole⟩ := exists_dropLastNewline id
    unfold isSpecId at valid
    split at valid
    · rename_i c rest same
      obtain ⟨start, parts⟩ := Bool.and_eq_true_iff.mp valid
      rw [whole, same]
      exact .mk start (List.all_eq_true.mp parts) ended
    · cases valid
  · rintro ⟨start, parts, ended⟩
    rename_i c rest ending
    have unended : (c :: rest).getLast? ≠ some '\n' := fun last =>
      absurd (IsSpelledId.parts_of start parts _ (List.mem_of_getLast? last)) (by decide)
    rw [isSpecId, dropLastNewline_append unended ended]
    simpa [start] using parts

/-- The characters of an id separate no folders. -/
theorem IsSpelledId.unseparated {id : List Char} (spelled : IsSpelledId id) {c : Char}
    (separator : c ∈ ['/', '\\']) : c ∉ id := by
  obtain ⟨start, parts, ended⟩ := spelled
  have none : ∀ c ∈ ['/', '\\'], isIdPart c = false ∧ ∀ ending ∈ [[], ['\n']], c ∉ ending :=
    List.forall_mem_cons.mpr ⟨by decide, List.forall_mem_singleton.mpr (by decide)⟩
  obtain ⟨noPart, noEnding⟩ := none c separator
  refine List.not_mem_append (fun member => ?_) (noEnding _ ended)
  rw [IsSpelledId.parts_of start parts c member] at noPart
  cases noPart

/-- The file of a spec has a name of its own in the folder of specs. -/
theorem IsSpelledId.isFileName {id : String} (spelled : IsSpelledId id.toList) :
    IsFileName (id ++ ".md") := by
  have longer {dots : String} (short : dots.toList.length < 3) : id ++ ".md" ≠ dots := by
    rintro rfl
    rw [String.toList_append, List.length_append] at short
    exact absurd short (Nat.not_lt.mpr (Nat.le_add_left 3 _))
  refine ⟨⟨?_, ?_⟩, longer (by decide), longer (by decide)⟩
  · rw [String.toList_append]
    exact List.not_mem_append (spelled.unseparated (by decide)) (by decide)
  · rw [String.toList_append]
    exact List.not_mem_append (spelled.unseparated (by decide)) (by decide)

/-! ### Names and their documents -/

namespace Artifact

/-- A name is one of three, or that of a spec, whose id may be invalid, or unknown. -/
theorem ofName_cases (name : String) :
    (∃ artifact ∈ [proposal, tasks, challenge],
        name = artifact.name ∧ ofName name = .ok artifact) ∨
      (∃ id, name = specStart ++ id ∧ ofName name =
        if isSpecId id.toList then .ok (.spec id) else .error (.invalidSpecId id)) ∨
      ofName name = .error (.unknown name) := by
  unfold ofName
  split
  · exact .inl ⟨.proposal, by decide, ‹_›, rfl⟩
  split
  · exact .inl ⟨.tasks, by decide, ‹_›, rfl⟩
  split
  · exact .inl ⟨.challenge, by decide, ‹_›, rfl⟩
  refine .inr ?_
  split
  · rename_i id rest
    refine .inl ⟨String.ofList id, String.toList_inj.mp ?_, by rw [String.toList_ofList]⟩
    rw [afterStart?_eq_some_iff.mp rest, String.toList_append, String.toList_ofList]
  · exact .inr rfl

/-- A name stands for a document if it is the document's, and the id of a spec is valid. -/
theorem ofName_eq_ok_iff {name : String} {artifact : Artifact} :
    ofName name = .ok artifact ↔
      name = artifact.name ∧ ∀ id, artifact = .spec id → isSpecId id.toList = true := by
  constructor
  · intro known
    rcases ofName_cases name with ⟨own, among, same, found⟩ | ⟨id, same, found⟩ | found
    · cases found.symm.trans known
      refine ⟨same, ?_⟩
      rintro id rfl
      simp at among
    · rw [found] at known
      split at known
      · rename_i valid
        cases known
        exact ⟨same, fun _ spec => Artifact.spec.inj spec ▸ valid⟩
      · cases known
    · cases found.symm.trans known
  · rintro ⟨rfl, valid⟩
    cases artifact with
    | spec id => exact isNamed_spec (valid id rfl)
    | _ => rfl

theorem isDocumentName_iff {name : String} :
    IsDocumentName name ↔ ∃ artifact, ofName name = .ok artifact := by
  constructor
  · rintro (_ | _ | _ | spelled)
    · exact ⟨.proposal, rfl⟩
    · exact ⟨.tasks, rfl⟩
    · exact ⟨.challenge, rfl⟩
    · exact ⟨_, isNamed_spec (isSpecId_iff.mpr spelled)⟩
  · rintro ⟨artifact, known⟩
    obtain ⟨rfl, valid⟩ := ofName_eq_ok_iff.mp known
    cases artifact with
    | proposal => exact .proposal
    | tasks => exact .tasks
    | challenge => exact .challenge
    | spec id => exact .spec (isSpecId_iff.mp (valid id rfl))

/-- What is wrong with a name is said of the name, or of the id in it. -/
theorem ofName_refused {name : String} (unknown : ¬IsDocumentName name) :
    ∃ fault, ofName name = .error fault ∧
      (fault = .unknown name ∨ ∃ id, name = specStart ++ id ∧ fault = .invalidSpecId id) := by
  have refused (artifact : Artifact) : ofName name ≠ .ok artifact :=
    fun known => unknown (isDocumentName_iff.mpr ⟨artifact, known⟩)
  rcases ofName_cases name with ⟨own, -, -, found⟩ | ⟨id, same, found⟩ | found
  · exact absurd found (refused own)
  · split at found
    · exact absurd found (refused _)
    · exact ⟨_, found, .inr ⟨id, same, rfl⟩⟩
  · exact ⟨_, found, .inl rfl⟩

theorem isDocumentPlace_file {name : String} {artifact : Artifact}
    (known : ofName name = .ok artifact) : IsDocumentPlace artifact.file := by
  obtain ⟨-, valid⟩ := ofName_eq_ok_iff.mp known
  cases artifact with
  | spec id => exact .spec (isSpecId_iff.mp (valid id rfl)).isFileName
  | _ => exact .own (by decide) ⟨by decide, by decide⟩

theorem file_injective {one two : Artifact} (same : one.file = two.file) : one = two := by
  cases one <;> cases two <;> simp [file] at same ⊢
  exact same

end Artifact

/-! ### Paths that are shown -/

/-- Behind the names of a folder paths are told apart by what stands in the folder. -/
theorem Path.text_injective {place : Path} {one two : FilePath} (some_one : one ≠ [])
    (some_two : two ≠ [])
    (same : Path.text { place with names := place.names ++ one } =
      Path.text { place with names := place.names ++ two }) :
    "/".intercalate one = "/".intercalate two := by
  unfold Path.text at same
  rw [if_neg (by simp [some_one]), if_neg (by simp [some_two]), String.append_right_inj] at same
  by_cases inside : place.names = []
  · rwa [inside] at same
  · rw [String.intercalate_append_of_ne_nil inside some_one,
      String.intercalate_append_of_ne_nil inside some_two] at same
    exact (String.append_right_inj _).mp same

theorem IsDocumentPlace.ne_nil {file : FilePath} (isPlace : IsDocumentPlace file) : file ≠ [] := by
  cases isPlace <;> exact List.cons_ne_nil _ _

/-- Two places of documents have different texts. -/
theorem IsDocumentPlace.eq_of_joined {one two : FilePath} (first : IsDocumentPlace one)
    (second : IsDocumentPlace two) (same : "/".intercalate one = "/".intercalate two) :
    one = two := by
  have apart {own other : String} (isName : IsFileName own)
      (joined : "/".intercalate [own] = "/".intercalate ["specs", other]) : False := by
    refine isName.unseparated.1 ?_
    rw [String.intercalate_singleton] at joined
    rw [joined]
    simp [String.intercalate_cons_cons]
  cases first with
  | own known isName =>
      cases second with
      | own _ _ => simpa using same
      | spec _ => exact (apart isName same).elim
  | spec isName =>
      cases second with
      | own _ isOther => exact (apart isOther same.symm).elim
      | spec _ => simpa [String.intercalate_cons_cons] using same

/-! ### Requests by name -/

namespace ChangeFolder

variable {folder : ChangeFolder} {artifact : Artifact}

theorem serve_of_known {name : String} (known : Artifact.ofName name = .ok artifact)
    (request : DocumentRequest) :
    folder.serve name request = folder.serveArtifact artifact request := by
  rw [serve, known]

/-- A change of one document leaves the files elsewhere as they are. -/
theorem file?_afterChange {files : Except FileFault Folder} {path : FilePath}
    (elsewhere : ∀ after, files = .ok after → after.file? path = folder.files.file? path) :
    (folder.afterChange artifact
      (files.map fun files => { folder with files })).1.files.file? path =
        folder.files.file? path := by
  cases files with
  | ok after => exact elsewhere after rfl
  | error fault => rfl

/-- A request to a document changes no other file. -/
theorem file?_serveArtifact (request : DocumentRequest) {path : FilePath}
    (other : path ≠ artifact.file) :
    (folder.serveArtifact artifact request).1.files.file? path = folder.files.file? path := by
  cases request with
  | write text =>
      refine file?_afterChange fun after written => ?_
      rw [Folder.file?_writeContent written, if_neg other]
  | append text =>
      refine file?_afterChange fun after added => ?_
      rw [Folder.file?_append added, if_neg other]
  | _ => rfl

/-- The answer to a request for a path comes from a document that the name stands for. -/
theorem artifact_of_path {name path : String} (served : (folder.serve name .path).2 =
    .ok (.path path)) : ∃ artifact, Artifact.ofName name = .ok artifact ∧
      path = folder.pathText artifact := by
  unfold serve at served
  split at served
  · rename_i artifact known
    cases served
    exact ⟨artifact, known, rfl⟩
  · cases served

end ChangeFolder

/-- **Names stand for places in the folder.**  The path of a document that a name stands for leads
to one of three files in the folder of the change or to a file in its folder of specs, and a request
by that name changes no other file.  Different names have different paths.  A request by any other
name is refused with a fault that says so, whatever the folder holds, and the folder stays as it
was. -/
theorem names_stand_for_places :
    (∀ name, IsDocumentName name → ∃ file, IsDocumentPlace file ∧ ∀ folder : ChangeFolder,
      folder.serve name .path = (folder,
        .ok (.path (Path.text { folder.place with names := folder.place.names ++ file }))) ∧
      ∀ request path, path ≠ file →
        (folder.serve name request).1.files.file? path = folder.files.file? path) ∧
    (∀ (folder : ChangeFolder) name other path otherPath,
      (folder.serve name .path).2 = .ok (.path path) →
      (folder.serve other .path).2 = .ok (.path otherPath) → name ≠ other → path ≠ otherPath) ∧
    ∀ name, ¬IsDocumentName name → ∃ fault : ArtifactFault,
      (fault = .unknown name ∨ ∃ id, name = "specs/" ++ id ∧ fault = .invalidSpecId id) ∧
      ∀ (folder : ChangeFolder) request,
        folder.serve name request = (folder, .error (.name fault)) := by
  refine ⟨fun name isName => ?_, ?_, fun name unknown => ?_⟩
  · obtain ⟨artifact, known⟩ := Artifact.isDocumentName_iff.mp isName
    refine ⟨artifact.file, Artifact.isDocumentPlace_file known, fun folder => ⟨?_, ?_⟩⟩
    · exact ChangeFolder.serve_of_known known .path
    · intro request path other
      rw [ChangeFolder.serve_of_known known]
      exact ChangeFolder.file?_serveArtifact request other
  · rintro folder name other path otherPath served servedOther distinct rfl
    obtain ⟨artifact, known, rfl⟩ := ChangeFolder.artifact_of_path served
    obtain ⟨otherArtifact, knownOther, same⟩ := ChangeFolder.artifact_of_path servedOther
    have first := Artifact.isDocumentPlace_file known
    have second := Artifact.isDocumentPlace_file knownOther
    have joined := Path.text_injective first.ne_nil second.ne_nil same
    obtain rfl := Artifact.file_injective (first.eq_of_joined second joined)
    obtain ⟨named, -⟩ := Artifact.ofName_eq_ok_iff.mp known
    obtain ⟨namedOther, -⟩ := Artifact.ofName_eq_ok_iff.mp knownOther
    exact distinct (named.trans namedOther.symm)
  · obtain ⟨fault, refused, named⟩ := Artifact.ofName_refused unknown
    refine ⟨fault, named, fun folder request => ?_⟩
    rw [ChangeFolder.serve, refused]

/-! ### Names with and without a line feed, and one that leads out of the folder -/

namespace NearNames

/-- A folder with a proposal. -/
def folder : ChangeFolder :=
  ⟨⟨"/", ["work"]⟩, [(["proposal.md"], .file (.text "# Search"))]⟩

/-- A line feed at the end of an id makes another path of it, and a name that would lead out of the
folder is refused. -/
theorem near_names_are_apart :
    (IsDocumentName "specs/auth" ∧ ∃ file, IsDocumentPlace file ∧
      folder.serve "specs/auth" .path = (folder,
        .ok (.path (Path.text { folder.place with names := folder.place.names ++ file })))) ∧
      (folder.serve "specs/auth" .path).2 = .ok (.path "/work/specs/auth.md") ∧
      (folder.serve "specs/auth\n" .path).2 = .ok (.path "/work/specs/auth\n.md") ∧
      "/work/specs/auth.md" ≠ "/work/specs/auth\n.md" ∧
      ¬IsDocumentName "specs/../escape" ∧ ∃ fault : ArtifactFault, ∀ request,
        folder.serve "specs/../escape" request = (folder, .error (.name fault)) := by
  obtain ⟨known, apart, refused⟩ := names_stand_for_places
  have auth : IsDocumentName "specs/auth" :=
    Artifact.isDocumentName_iff.mpr ⟨.spec "auth", by decide⟩
  have escape : ¬IsDocumentName "specs/../escape" := by
    have invalid : Artifact.ofName "specs/../escape" = .error (.invalidSpecId "../escape") := by
      decide
    rw [Artifact.isDocumentName_iff, invalid]
    exact nofun
  have own : (folder.serve "specs/auth" .path).2 = .ok (.path "/work/specs/auth.md") := by rfl
  have other : (folder.serve "specs/auth\n" .path).2 = .ok (.path "/work/specs/auth\n.md") := by rfl
  obtain ⟨file, isPlace, served⟩ := known "specs/auth" auth
  obtain ⟨fault, -, refuses⟩ := refused "specs/../escape" escape
  exact ⟨⟨auth, file, isPlace, (served folder).1⟩, own, other,
    apart folder _ _ _ _ own other (by decide), escape, fault, refuses folder⟩

end NearNames

end PlanCycle
