/-
Module: PlanCycle.Proofs.CritiqueFile
Purpose: The file of the critiques: a dialogue adds to it the critiques whose verdict is applied, in
  order, as long as nobody else writes it.
Main exports:
  Folder.content?, Folder.content?_append, Cycle.blocksOf, Cycle.SparesCritiques,
  Cycle.content?_of_dialogue
-/
import PlanCycle.Proofs.Dialogue

namespace PlanCycle

open Text

/-! ### Adding to a file -/


theorem byteArray_toList_loop (bytes : ByteArray) (i : Nat) (read : List UInt8) :
    ByteArray.toList.loop bytes i read = read.reverse ++ bytes.data.toList.drop i := by
  induction i, read using ByteArray.toList.loop.induct bytes with
  | case1 i read more ih =>
      have here : i < bytes.data.size := more
      have got : bytes.get! i = bytes.data[i] := by
        show bytes.data[i]! = _
        exact getElem!_pos bytes.data i here
      have rest : bytes.data.toList.drop i = bytes.data[i] :: bytes.data.toList.drop (i + 1) :=
        List.drop_eq_getElem_cons here
      rw [ByteArray.toList.loop, if_pos more, ih, rest, got, List.reverse_cons, List.append_assoc,
        List.singleton_append]
  | case2 i read done =>
      have past : bytes.data.toList.length ≤ i := by
        have size : bytes.data.size ≤ i := Nat.le_of_not_lt done
        simpa using size
      rw [ByteArray.toList.loop, if_neg done, List.drop_eq_nil_of_le past, List.append_nil]

theorem byteArray_toList (bytes : ByteArray) : bytes.toList = bytes.data.toList := by
  simp [ByteArray.toList, byteArray_toList_loop]

theorem Text.encode_append (first second : String) :
    encode (first ++ second) = encode first ++ encode second := by
  simp only [encode, byteArray_toList]
  simp

@[simp] theorem FileContent.append_empty (content : FileContent) : content.append "" = content := by
  cases content with
  | text value => simp [append]
  | bytes value => simp [append, encode]

theorem FileContent.append_append (content : FileContent) (first second : String) :
    (content.append first).append second = content.append (first ++ second) := by
  cases content with
  | text value => simp [append, String.append_assoc]
  | bytes value => simp [append, encode_append]

namespace Folder

/-- What is in the file at a path, which is empty as long as nothing stands there. -/
def content? (folder : Folder) (path : FilePath) : Option FileContent :=
  match folder.entry? path with
  | none => some (.text "")
  | some (.file content) => some content
  | some .folder => none

theorem stands_put (folder : Folder) (path : FilePath) (entry : FolderEntry) :
    Folder.entry? (folder.put path entry) path = some entry := by
  induction folder with
  | nil => simp [put, entry?]
  | cons known folder ih =>
      unfold put
      split
      · unfold entry?
        simp
      · rename_i other
        unfold entry? at ih ⊢
        rw [List.find?_cons_of_neg (by simpa using other)]
        exact ih

theorem entry?_put_of_ne {path other : FilePath} (folder : Folder) (differs : other ≠ path)
    (entry : FolderEntry) : Folder.entry? (folder.put path entry) other = folder.entry? other := by
  induction folder with
  | nil => simp [put, entry?, differs.symm]
  | cons known folder ih =>
      unfold put
      split
      · rename_i same
        unfold entry?
        rw [List.find?_cons_of_neg (by simp [differs.symm]),
          List.find?_cons_of_neg (by simp [same, differs.symm])]
      · unfold entry? at ih ⊢
        rw [List.find?_cons, List.find?_cons]
        cases known.1 == other with
        | true => rfl
        | false => exact ih

/-- A text that is added to a file follows what is there. -/
theorem content?_append {folder after : Folder} {name added : String} {old : FileContent}
    (stands : folder.content? [name] = some old) (done : folder.append [name] added = .ok after) :
    after.content? [name] = some (old.append added) := by
  have written : folder.append [name] added =
      if folder.isFolder [name] then .error .isFolder
      else .ok (folder.put [name] (.file (old.append added))) := by
    unfold content? at stands
    split at stands
    · rename_i absent
      cases stands
      simp [append, absent, writeContent, makeParents, parents, FileContent.append, bind,
        Except.bind, pure, Except.pure]
    · rename_i content present
      cases stands
      simp [append, present, writeContent, makeParents, parents, bind, Except.bind, pure,
        Except.pure]
    · cases stands
  rw [written] at done
  split at done
  · cases done
  · cases done
    unfold content?
    rw [stands_put]

end Folder

/-! ### The blocks of a dialogue -/

namespace Cycle

/-- The blocks that a dialogue adds to the file of the critiques, from one turn on: those of the
critiques whose verdict is applied. -/
def blocksOf (context : CycleContext) (turn : Nat → Exchange) (last first : Nat) : List String :=
  ((List.range' first (last + 1 - first)).filter fun i => isApplicable (turn i).review).map fun i =>
    critiqueBlock context i (turn i).review

/-- Whether agents and programs leave the file of the critiques alone. -/
def SparesCritiques (turn : Nat → Exchange) (last : Nat) : Prop :=
  (∀ i, 1 ≤ i → i ≤ last →
      Folder.entry? (turn i).answered.files (Artifact.file .challenge) =
        Folder.entry? (turn i).before.files (Artifact.file .challenge)) ∧
    ∀ i, 1 ≤ i → i < last →
      Folder.entry? (turn i).revised.files (Artifact.file .challenge) =
        Folder.entry? (turn i).filed.files (Artifact.file .challenge)

theorem blocksOf_last (context : CycleContext) (turn : Nat → Exchange) (last : Nat) :
    blocksOf context turn last last =
      if isApplicable (turn last).review then [critiqueBlock context last (turn last).review]
        else [] := by
  by_cases applies : isApplicable (turn last).review = true
  · simp [blocksOf, applies]
  · simp [blocksOf, applies]

theorem blocksOf_step {context : CycleContext} {turn : Nat → Exchange} {last first : Nat}
    (more : first < last) :
    blocksOf context turn last first =
      blocksOf context turn first first ++ blocksOf context turn last (first + 1) := by
  have count : last + 1 - first = (last + 1 - (first + 1)) + 1 := by omega
  rw [blocksOf_last]
  unfold blocksOf
  rw [count, List.range'_succ, List.filter_cons]
  by_cases applies : isApplicable (turn first).review = true
  · simp [applies]
  · simp [applies]

/-- A critique adds its block to the file of the critiques if its verdict is applied. -/
theorem Critiques.content?_filed {context : CycleContext} {turn : Nat → Exchange} {i : Nat}
    {old : FileContent}
    (critiques : Critiques context i (turn i).before (turn i).answer (turn i).answered
      (turn i).filed)
    (stands : (turn i).answered.files.content? (Artifact.file .challenge) = some old) :
    (turn i).filed.files.content? (Artifact.file .challenge) =
      some (old.append (String.join (blocksOf context turn i i))) := by
  have files := critiques.filed
  rw [show Review.parse (turn i).answer.output = (turn i).review from rfl] at files
  rw [blocksOf_last]
  split at files
  · rename_i applies
    rw [show Artifact.file .challenge = ["CHALLENGE.md"] from rfl] at stands files ⊢
    rw [Folder.content?_append stands files, if_pos applies]
    simp [String.join]
  · rename_i inapplicable
    rw [files, stands, if_neg inapplicable]
    simp [String.join]

/-- The file of the critiques grows by the blocks of a dialogue if nobody else writes it. -/
theorem content?_of_dialogue {context : CycleContext} {conversation : String}
    {turn : Nat → Exchange} {last i left : Nat} {old : FileContent}
    (dialogue : Dialogue context conversation last turn) (spares : SparesCritiques turn last)
    (first : 1 ≤ i) (count : i + left = last)
    (stands : (turn i).before.files.content? (Artifact.file .challenge) = some old) :
    (turn last).filed.files.content? (Artifact.file .challenge) =
      some (old.append (String.join (blocksOf context turn last i))) := by
  induction left generalizing i old with
  | zero =>
      obtain rfl : i = last := by omega
      refine (dialogue.critiques i first (Nat.le_refl i)).content?_filed ?_
      rw [Folder.content?, spares.1 i first (Nat.le_refl i)]
      exact stands
  | succ left ih =>
      have more : i < last := by omega
      have answered : (turn i).answered.files.content? (Artifact.file .challenge) = some old := by
        rw [Folder.content?, spares.1 i first (Nat.le_of_lt more)]
        exact stands
      have filed := (dialogue.critiques i first (Nat.le_of_lt more)).content?_filed answered
      have next : (turn (i + 1)).before.files.content? (Artifact.file .challenge) =
          some (old.append (String.join (blocksOf context turn i i))) := by
        rw [dialogue.follows i first more, Folder.content?, spares.2 i first more]
        exact filed
      rw [ih (by omega) (by omega) next, blocksOf_step more, String.join_append,
        FileContent.append_append]

end Cycle

end PlanCycle
