/-
Module: PlanCycle.Proofs.SpecNames
Purpose: The names of specs: what is cut off around them, that a proposal names each of its specs
  once and by a valid id, and that the documents of a plan have names of their own.
Main exports:
  Text.IsWithoutStart, Text.IsWithoutEnding, SpecIds, affectedSpecs_specIds, Artifact.IsNamed,
  IsDocumentList, ChangeFolder.required_isDocumentList
-/
import Mathlib.Data.List.Nodup
import PlanCycle.Change.Documents

namespace PlanCycle

open Text

/-! ### Beginnings and endings -/

namespace Text

/-- Whether a text is another one without a beginning; a text that does not have it stays. -/
def IsWithoutStart (start text rest : List Char) : Prop :=
  text = start ++ rest ∨ ¬start <+: text ∧ rest = text

/-- Whether a text is another one without an ending; a text that does not have it stays. -/
def IsWithoutEnding (ending text rest : List Char) : Prop :=
  text = rest ++ ending ∨ ¬ending <:+ text ∧ rest = text

end Text

theorem Artifact.afterStart?_eq_some_iff {start text rest : List Char} :
    afterStart? start text = some rest ↔ text = start ++ rest := by
  induction start generalizing text with
  | nil => simp [afterStart?]
  | cons c start ih =>
      cases text with
      | nil => simp [afterStart?]
      | cons d text =>
          unfold afterStart?
          split
          · rename_i same
            rw [ih, same, List.cons_append, List.cons_inj_right]
          · rename_i other
            refine ⟨nofun, fun same => ?_⟩
            exact absurd (List.cons.inj same).1.symm other

theorem dropBeginning_eq_iff {start text rest : List Char} :
    dropBeginning start text = rest ↔ IsWithoutStart start text rest := by
  unfold dropBeginning IsWithoutStart
  cases found : Artifact.afterStart? start text with
  | some after =>
      have whole := Artifact.afterStart?_eq_some_iff.mp found
      subst whole
      simp
  | none =>
      have other : ¬start <+: text := by
        rintro ⟨after, whole⟩
        rw [Artifact.afterStart?_eq_some_iff.mpr whole.symm] at found
        cases found
      constructor
      · rintro rfl
        exact .inr ⟨other, rfl⟩
      · rintro (rfl | ⟨-, rfl⟩)
        · exact absurd (List.prefix_append start rest) other
        · rfl

theorem dropEnding_eq_iff {ending text rest : List Char} :
    dropEnding ending text = rest ↔ IsWithoutEnding ending text rest := by
  unfold dropEnding IsWithoutEnding
  split
  · rename_i has
    obtain ⟨before, rfl⟩ := List.isSuffixOf_iff_suffix.mp has
    simp [eq_comm]
  · rename_i lacks
    have other : ¬ending <:+ text := fun has => lacks (List.isSuffixOf_iff_suffix.mpr has)
    constructor
    · rintro rfl
      exact .inr ⟨other, rfl⟩
    · rintro (rfl | ⟨-, rfl⟩)
      · exact absurd (List.suffix_append rest ending) other
      · rfl

/-! ### The ids that a proposal names -/

/-- Ids of specs, each valid and none twice. -/
structure SpecIds (ids : List String) : Prop where
  distinct : ids.Nodup
  valid : ∀ id ∈ ids, isSpecId id.toList = true

namespace SpecIds

theorem nil : SpecIds [] := ⟨List.nodup_nil, by simp⟩

/-- An id is added at the end if it is valid and new, and else nothing is. -/
theorem addId {ids : List String} (known : SpecIds ids) (part : List Char) :
    SpecIds (addId ids part) := by
  unfold PlanCycle.addId
  dsimp only
  split
  · rename_i fits
    simp only [Bool.and_eq_true, Bool.not_eq_true', List.contains_eq_mem,
      decide_eq_false_iff_not] at fits
    obtain ⟨valid, fresh⟩ := fits
    constructor
    · exact List.nodup_append.mpr ⟨known.distinct, List.nodup_singleton _, by
        rintro id member other same rfl
        exact fresh (List.mem_singleton.mp same ▸ member)⟩
    · intro id member
      rcases List.mem_append.mp member with old | new
      · exact known.valid id old
      · rw [List.mem_singleton.mp new, String.toList_ofList]
        exact valid
  · exact known

theorem foldl {ids : List String} (known : SpecIds ids) (parts : List (List Char)) :
    SpecIds (parts.foldl PlanCycle.addId ids) := by
  induction parts generalizing ids with
  | nil => exact known
  | cons part parts ih =>
      rw [List.foldl_cons]
      exact ih (known.addId part)

end SpecIds

/-- A proposal names valid ids, none of them twice. -/
theorem affectedSpecs_specIds (proposal : String) : SpecIds (affectedSpecs proposal) := by
  unfold affectedSpecs
  split
  · unfold specIdsOf
    dsimp only
    split
    · exact .nil
    · exact SpecIds.nil.foldl _
  · exact .nil

/-! ### The documents that a plan needs -/

/-- Whether the name of a document stands for it. -/
def Artifact.IsNamed (artifact : Artifact) : Prop :=
  Artifact.ofName artifact.name = .ok artifact

theorem Artifact.isNamed_spec {id : String} (valid : isSpecId id.toList = true) :
    (Artifact.spec id).IsNamed := by
  have other {name : String} (plain : name.toList.head? = some 's' → '/' ∉ name.toList)
      (same : specStart ++ id = name) : False := by
    subst same
    exact plain (by simp [specStart]) (by simp [specStart])
  have rest : afterStart? specStart.toList (specStart ++ id).toList = some id.toList :=
    afterStart?_eq_some_iff.mpr String.toList_append
  unfold IsNamed ofName name
  rw [if_neg fun same => other (by decide) same, if_neg fun same => other (by decide) same,
    if_neg fun same => other (by decide) same, rest]
  dsimp only
  rw [if_pos valid, String.ofList_toList]

/-- Whether documents are listed as a plan needs them: the proposal first, the task list last, none
twice, and each under a name that stands for it. -/
structure IsDocumentList (artifacts : List Artifact) : Prop where
  first : artifacts.head? = some .proposal
  last : artifacts.getLast? = some .tasks
  distinct : (artifacts.map Artifact.name).Nodup
  named : ∀ artifact ∈ artifacts, artifact.IsNamed

/-- Documents that their names stand for have as many names. -/
theorem nodup_names {artifacts : List Artifact} (distinct : artifacts.Nodup)
    (named : ∀ artifact ∈ artifacts, artifact.IsNamed) :
    (artifacts.map Artifact.name).Nodup := by
  refine List.Nodup.map_on ?_ distinct
  intro one memberOne two memberTwo same
  have back : Artifact.ofName one.name = .ok one := named one memberOne
  rw [same, named two memberTwo] at back
  exact (Except.ok.inj back).symm

theorem SpecIds.isDocumentList {ids : List String} (known : SpecIds ids) :
    IsDocumentList (.proposal :: ids.map .spec ++ [.tasks]) := by
  have named : ∀ artifact ∈ Artifact.proposal :: ids.map .spec ++ [.tasks], artifact.IsNamed := by
    intro artifact member
    simp only [List.cons_append, List.mem_cons, List.mem_append, List.mem_map, List.not_mem_nil,
      or_false] at member
    rcases member with rfl | ⟨id, among, rfl⟩ | rfl
    · rfl
    · exact Artifact.isNamed_spec (known.valid id among)
    · rfl
  have specs : (ids.map Artifact.spec).Nodup :=
    known.distinct.map fun one two same => Artifact.spec.inj same
  have distinct : (Artifact.proposal :: ids.map .spec ++ [Artifact.tasks]).Nodup := by
    simp [List.nodup_append, specs]
  exact ⟨rfl, List.getLast?_concat, nodup_names distinct named, named⟩

/-- The documents that a plan needs are known as soon as the proposal can be read, and before there
is one. -/
theorem ChangeFolder.required_isDocumentList {folder : ChangeFolder} {proposal : String}
    (read : folder.has .proposal = true → folder.read .proposal = .ok proposal) :
    ∃ artifacts, folder.required = .ok artifacts ∧ IsDocumentList artifacts := by
  unfold required specIds
  cases proposed : folder.has .proposal with
  | false => exact ⟨_, rfl, SpecIds.nil.isDocumentList⟩
  | true =>
      rw [read proposed]
      exact ⟨_, rfl, (affectedSpecs_specIds proposal).isDocumentList⟩

end PlanCycle
