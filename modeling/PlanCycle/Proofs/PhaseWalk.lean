/-
Module: PlanCycle.Proofs.PhaseWalk
Purpose: The operations on the record of one change, in any order and whether they are done or
  refused: the phases it goes through are a walk in the diagram of the lifecycle, its count of
  revisions is the number of increments since it was last proposed anew, and a refused operation
  leaves the record as it was.
Main exports:
  Change.Operation, Phase.Arrow, Change.Passage, Change.Walk, Change.increments,
  Change.record_walks_diagram
-/
import PlanCycle.Proofs.Critique
import PlanCycle.Proofs.Implementation

namespace PlanCycle

/-! ### Operations and the diagram -/

/-- An operation on the record of a change. -/
inductive Change.Operation where
  | applyVerdict (verdict : Verdict)
  | startImplementation
  | complete
  | archive
  | reenter
  | incrementIteration
  | setSessionId (sessionId : Option String)
  | setLastAction (action : Option String)

/-- The diagram of the lifecycle: from which phase which operation leads to which. -/
inductive Phase.Arrow : Phase → Change.Operation → Phase → Prop where
  | approve : Arrow .proposed (.applyVerdict .approved) .challenged
  | revise : Arrow .proposed (.applyVerdict .needsRevision) .proposed
  | reject : Arrow .proposed (.applyVerdict .rejected) .rejected
  | reopen : Arrow .rejected .reenter .proposed
  | start : Arrow .challenged .startImplementation .implementing
  | resume : Arrow .implementing .startImplementation .implementing
  | finish : Arrow .implementing .complete .complete
  | archive : Arrow .complete .archive .archived

namespace Change

namespace Operation

/-- The operations that only note something about the change. -/
def IsNote : Operation → Prop
  | .incrementIteration | .setSessionId _ | .setLastAction _ => True
  | _ => False

/-- What an operation makes of a record, unless it is refused. -/
def step : Operation → Change → Except Failure Change
  | .applyVerdict verdict => (·.applyVerdict verdict)
  | .startImplementation => (·.moveTo .implementing)
  | .complete => (·.moveTo .complete)
  | .archive => (·.moveTo .archived)
  | .reenter => (·.reenter)
  | .incrementIteration => fun change => .ok { change with iteration := change.iteration + 1 }
  | .setSessionId sessionId => fun change => .ok { change with sessionId }
  | .setLastAction action => fun change => .ok { change with lastAction := action }

/-- The session of an operation on the change with an id. -/
def session (id : String) : Operation → Session Change
  | .incrementIteration =>
    Session.modify id fun change => { change with iteration := change.iteration + 1 }
  | .setSessionId sessionId => Session.modify id fun change => { change with sessionId }
  | .setLastAction action => Session.modify id fun change => { change with lastAction := action }
  | operation => Session.advance id operation.step

end Operation

/-- One operation of a history: what it gave, and the record that is kept after it. -/
structure Passage where
  operation : Operation
  result : Except Stop Change
  row : Option Change

/-- What operations on the change with an id do one after the other, each in a session of its own;
and the store in the end. -/
def course (id : String) (store : Store) : List Operation → List Passage × Store
  | [] => ([], store)
  | operation :: operations =>
    let (result, later) := (operation.session id).commit store
    let (passages, last) := course id later operations
    (⟨operation, result, later.find? id⟩ :: passages, last)

/-- What one operation does to a record: it goes along an arrow of the diagram, notes something, or
is refused and changes nothing. -/
structure Passage.IsLawful (passage : Passage) (before after : Change) : Prop where
  kept : passage.row = some after
  done : ∀ moved, passage.result = .ok moved → moved = after ∧
    (before.phase.Arrow passage.operation after.phase ∨
      passage.operation.IsNote ∧ after.phase = before.phase)
  refused : ∀ stop, passage.result = .error stop → after = before
  /-- Where the diagram has an arrow, the operation is not refused. -/
  allowed : ∀ target, before.phase.Arrow passage.operation target →
    passage.result = .ok after ∧ after.phase = target
  /-- What is only noted is refused in one case: a record cannot count further. -/
  noted : passage.operation.IsNote → passage.result = .ok after ∨
    passage.operation = .incrementIteration ∧ before.iteration + 1 = Session.numberLimit
  challenged : after.phase = .challenged → before.phase ≠ .challenged →
    passage.operation = .applyVerdict .approved ∧ before.phase = .proposed
  reopened : before.phase = .rejected → after.phase ≠ .rejected →
    passage.operation = .reenter ∧ passage.result = .ok after ∧ after.iteration = 0 ∧
      after.sessionId = none
  archived : before.phase = .archived → after.phase = .archived

/-- A history of a record, each passage from the record that the one before it left. -/
inductive Walk : Change → List Passage → Change → Prop where
  | stay (change : Change) : Walk change [] change
  | pass {passage : Passage} {before after last : Change} {passages : List Passage}
      (lawful : passage.IsLawful before after) (later : Walk after passages last) :
      Walk before (passage :: passages) last

/-- The number of increments after one more operation.  Proposing the change anew starts the count
again; an operation that is refused does not count. -/
def Passage.count (passage : Passage) (increments : Nat) : Nat :=
  match passage.operation, passage.result with
  | .incrementIteration, .ok _ => increments + 1
  | .reenter, .ok _ => 0
  | _, _ => increments

/-- How often the count of revisions was incremented since the change was last proposed anew. -/
def increments (passages : List Passage) : Nat :=
  passages.foldl (fun count passage => passage.count count) 0

/-! ### One operation -/

namespace Operation

variable {id : String} {store last : Store} {before after moved : Change} {operation : Operation}

theorem modify_ok_iff_step {edit : Change → Change} :
    Session.modify id edit store = .ok (moved, last) ↔
      ∃ change, store.find? id = some change ∧
        (Except.ok (edit change) : Except Failure Change) = .ok moved ∧
        Session.fits [moved.iteration] = true ∧ last = store.withChange moved := by
  rw [Session.modify_ok_iff]
  simp only [Except.ok.injEq, @eq_comm _ moved]

/-- The session of an operation is done exactly if its step is and the result fits into a record. -/
theorem session_ok_iff :
    operation.session id store = .ok (moved, last) ↔
      ∃ change, store.find? id = some change ∧ operation.step change = .ok moved ∧
        Session.fits [moved.iteration] = true ∧ last = store.withChange moved := by
  cases operation with
  | incrementIteration => exact modify_ok_iff_step
  | setSessionId sessionId => exact modify_ok_iff_step
  | setLastAction action => exact modify_ok_iff_step
  | applyVerdict verdict => exact Session.advance_ok_iff
  | startImplementation => exact Session.advance_ok_iff
  | complete => exact Session.advance_ok_iff
  | archive => exact Session.advance_ok_iff
  | reenter => exact Session.advance_ok_iff

theorem reenter_ok_iff :
    before.reenter = .ok after ↔ before.phase = .rejected ∧
      after = { before with phase := .proposed, iteration := 0, sessionId := none } := by
  unfold Change.reenter
  split
  · rename_i rejected
    rw [moveTo_ok_iff]
    simp [rejected, Phase.next]
  · rename_i other
    simp [other]

/-- A step that is done goes along an arrow of the diagram or notes something. -/
theorem arrow_of_step (done : operation.step before = .ok after) :
    before.phase.Arrow operation after.phase ∨ operation.IsNote ∧ after.phase = before.phase := by
  cases operation with
  | applyVerdict verdict =>
      obtain ⟨target, leads, proposed, rfl⟩ := applyVerdict_ok_iff.mp done
      rw [proposed]
      cases verdict with
      | approved => cases leads; exact .inl .approve
      | needsRevision => cases leads; exact .inl .revise
      | rejected => cases leads; exact .inl .reject
      | unknown => cases leads
  | startImplementation =>
      obtain ⟨next, rfl⟩ := moveTo_ok_iff.mp done
      cases phase : before.phase with
      | challenged => exact .inl .start
      | implementing => exact .inl .resume
      | _ => simp [phase, Phase.next] at next
  | complete =>
      obtain ⟨next, rfl⟩ := moveTo_ok_iff.mp done
      cases phase : before.phase with
      | implementing => exact .inl .finish
      | _ => simp [phase, Phase.next] at next
  | archive =>
      obtain ⟨next, rfl⟩ := moveTo_ok_iff.mp done
      cases phase : before.phase with
      | complete => exact .inl .archive
      | _ => simp [phase, Phase.next] at next
  | reenter =>
      obtain ⟨rejected, rfl⟩ := reenter_ok_iff.mp done
      rw [rejected]
      exact .inl .reopen
  | incrementIteration =>
      cases done
      exact .inr ⟨trivial, rfl⟩
  | setSessionId sessionId =>
      cases done
      exact .inr ⟨trivial, rfl⟩
  | setLastAction action =>
      cases done
      exact .inr ⟨trivial, rfl⟩

/-- Along an arrow of the diagram a step is done. -/
theorem step_of_arrow {target : Phase} (arrow : before.phase.Arrow operation target) :
    ∃ after, operation.step before = .ok after ∧ after.phase = target := by
  have judged (verdict : Verdict) (leads : Phase.ofVerdict? verdict = some target)
      (proposed : before.phase = .proposed) :
      ∃ after, before.applyVerdict verdict = .ok after ∧ after.phase = target :=
    ⟨_, applyVerdict_ok_iff.mpr ⟨target, leads, proposed, rfl⟩, rfl⟩
  have moves (next : target ∈ before.phase.next) :
      ∃ after, before.moveTo target = .ok after ∧ after.phase = target :=
    ⟨_, moveTo_ok_iff.mpr ⟨next, rfl⟩, rfl⟩
  generalize phase : before.phase = here at arrow
  rw [phase] at moves
  cases arrow with
  | approve => exact judged .approved rfl phase
  | revise => exact judged .needsRevision rfl phase
  | reject => exact judged .rejected rfl phase
  | reopen => exact ⟨_, reenter_ok_iff.mpr ⟨phase, rfl⟩, rfl⟩
  | start => exact moves (by decide)
  | resume => exact moves (by decide)
  | finish => exact moves (by decide)
  | archive => exact moves (by decide)

/-- The count of revisions after a step that is done. -/
def iterationAfter : Operation → Int → Int
  | .incrementIteration, iteration => iteration + 1
  | .reenter, _ => 0
  | _, iteration => iteration

/-- Along an arrow of the diagram the count of revisions stays or starts again. -/
theorem iterationAfter_of_arrow {here target : Phase} (along : here.Arrow operation target)
    (iteration : Int) :
    operation.iterationAfter iteration = iteration ∨ operation.iterationAfter iteration = 0 := by
  cases along with
  | reopen => exact .inr rfl
  | _ => exact .inl rfl

/-- A step changes no name, and the count of revisions in two cases only. -/
theorem step_fields (done : operation.step before = .ok after) :
    after.id = before.id ∧ after.iteration = operation.iterationAfter before.iteration := by
  have moves {target : Phase} (moved : before.moveTo target = .ok after) :
      after.id = before.id ∧ after.iteration = before.iteration := by
    obtain ⟨_, rfl⟩ := moveTo_ok_iff.mp moved
    exact ⟨rfl, rfl⟩
  cases operation with
  | applyVerdict verdict =>
      obtain ⟨_, _, _, rfl⟩ := applyVerdict_ok_iff.mp done
      exact ⟨rfl, rfl⟩
  | startImplementation => exact moves done
  | complete => exact moves done
  | archive => exact moves done
  | reenter =>
      obtain ⟨_, rfl⟩ := reenter_ok_iff.mp done
      exact ⟨rfl, rfl⟩
  | incrementIteration =>
      cases done
      exact ⟨rfl, rfl⟩
  | setSessionId sessionId =>
      cases done
      exact ⟨rfl, rfl⟩
  | setLastAction action =>
      cases done
      exact ⟨rfl, rfl⟩

end Operation

namespace Passage

variable {before after : Change} {operation : Operation}

/-- A step that is done is a lawful passage. -/
theorem lawful_of_step (done : operation.step before = .ok after) :
    IsLawful ⟨operation, .ok after, some after⟩ before after := by
  have arrow := Operation.arrow_of_step done
  refine ⟨rfl, ?_, nofun, ?_, fun _ => .inl rfl, ?_, ?_, ?_⟩
  · rintro moved same
    cases same
    exact ⟨rfl, arrow⟩
  · intro target along
    obtain ⟨other, stepped, phase⟩ := Operation.step_of_arrow along
    obtain rfl := Except.ok.inj (done.symm.trans stepped)
    exact ⟨rfl, phase⟩
  · intro entered apart
    rcases arrow with along | ⟨_, same⟩
    · rw [entered] at along
      generalize before.phase = here at along
      cases along
      exact ⟨rfl, rfl⟩
    · exact absurd (same.symm.trans entered) apart
  · intro rejected left
    rcases arrow with along | ⟨_, same⟩
    · rw [rejected] at along
      generalize phase : after.phase = there at along
      cases along
      obtain ⟨_, rfl⟩ := Operation.reenter_ok_iff.mp done
      exact ⟨rfl, rfl, rfl, rfl⟩
    · exact absurd (same.trans rejected) left
  · intro archived
    rcases arrow with along | ⟨_, same⟩
    · rw [archived] at along
      cases along
    · exact same.trans archived

/-- An operation that is refused is a lawful passage, if the diagram has no arrow for it and there
is nothing to note, or no way to count further. -/
theorem lawful_of_refused {stop : Stop}
    (absent : ∀ target, ¬before.phase.Arrow operation target)
    (full : operation.IsNote →
      operation = .incrementIteration ∧ before.iteration + 1 = Session.numberLimit) :
    IsLawful ⟨operation, .error stop, some before⟩ before before where
  kept := rfl
  done := nofun
  refused _ _ := rfl
  allowed target along := absurd along (absent target)
  noted note := .inr (full note)
  challenged entered apart := absurd entered apart
  reopened rejected left := absurd rejected left
  archived archived := archived

end Passage

/-! ### A history -/

theorem Passage.count_of_refused (operation : Operation) (stop : Stop) (row : Option Change)
    (increments : Nat) : Passage.count ⟨operation, .error stop, row⟩ increments = increments := by
  cases operation <;> rfl

/-- Whether the count of revisions of a record is the given number of increments, and one that a
record can hold. -/
structure Counts (change : Change) (increments : Nat) : Prop where
  iteration : change.iteration = increments
  fits : Session.fits [change.iteration] = true

theorem fits_iff {iteration : Int} :
    Session.fits [iteration] = true ↔
      -Session.numberLimit ≤ iteration ∧ iteration < Session.numberLimit := by
  simp [Session.fits]

variable {id : String}

/-- An operation on a record that counts its increments is a lawful passage to one that does. -/
theorem passage_lawful {store : Store} {before : Change} {increments : Nat} (operation : Operation)
    (found : store.find? id = some before) (counts : before.Counts increments) :
    let committed := (operation.session id).commit store
    let passage : Passage := ⟨operation, committed.1, committed.2.find? id⟩
    ∃ after, committed.2.find? id = some after ∧ passage.IsLawful before after ∧
      after.Counts (passage.count increments) := by
  cases worked : operation.session id store with
  | ok given =>
      obtain ⟨moved, last⟩ := given
      obtain ⟨change, same, done, fit, rfl⟩ := Operation.session_ok_iff.mp worked
      obtain rfl := Option.some.inj (found.symm.trans same)
      obtain ⟨named, iteration⟩ := Operation.step_fields done
      have kept := Store.find?_withChange_self found named
      have committed : (operation.session id).commit store =
          (.ok moved, store.withChange moved) := by
        simp [Session.commit, worked]
      rw [committed]
      refine ⟨moved, kept, ?_, ?_⟩
      · rw [kept]
        exact Passage.lawful_of_step done
      · refine ⟨?_, fit⟩
        rw [iteration, counts.iteration]
        cases operation with
        | incrementIteration => rfl
        | _ => rfl
  | error stop =>
      have undone (after : Change) (done : operation.step before = .ok after) :
          ¬Session.fits [after.iteration] = true := by
        intro fit
        have worked' := Operation.session_ok_iff.mpr ⟨before, found, done, fit, rfl⟩
        rw [worked] at worked'
        cases worked'
      have absent (target : Phase) : ¬before.phase.Arrow operation target := by
        intro along
        obtain ⟨after, done, _⟩ := Operation.step_of_arrow along
        apply undone after done
        rcases Operation.iterationAfter_of_arrow along before.iteration with same | zero
        · rw [(Operation.step_fields done).2, same]
          exact counts.fits
        · rw [(Operation.step_fields done).2, zero]
          decide
      have full (note : operation.IsNote) :
          operation = .incrementIteration ∧ before.iteration + 1 = Session.numberLimit := by
        cases operation with
        | incrementIteration =>
            have here := fits_iff.mp counts.fits
            have next : ¬Session.fits [before.iteration + 1] = true := undone _ rfl
            rw [fits_iff] at next
            exact ⟨rfl, by omega⟩
        | setSessionId sessionId => exact absurd counts.fits (undone { before with sessionId } rfl)
        | setLastAction action =>
            exact absurd counts.fits (undone { before with lastAction := action } rfl)
        | _ => exact note.elim
      rw [Session.commit_of_stop worked]
      refine ⟨before, found, ?_, ?_⟩
      · rw [found]
        exact Passage.lawful_of_refused absent full
      · rw [Passage.count_of_refused]
        exact counts

/-- Operations on a record that counts its increments are a walk to one that does. -/
theorem walk_from {store : Store} {before : Change} {count : Nat}
    (operations : List Operation) (found : store.find? id = some before)
    (counts : before.Counts count) :
    ∃ last, Walk before (course id store operations).1 last ∧
      (course id store operations).2.find? id = some last ∧
      last.Counts ((course id store operations).1.foldl
        (fun count passage => passage.count count) count) := by
  induction operations generalizing store before count with
  | nil => exact ⟨before, .stay before, found, counts⟩
  | cons operation operations ih =>
      obtain ⟨after, kept, lawful, counted⟩ := passage_lawful operation found counts
      obtain ⟨last, walk, ended, total⟩ := ih kept counted
      exact ⟨last, .pass lawful walk, ended, total⟩

/-- A new change is on record as proposed, and was neither revised nor talked about. -/
theorem find?_created {store start : Store} {description : String} {new : Change}
    (created : Session.create id description store = .ok (new, start)) :
    start.find? id = some new ∧ new = { id, description } := by
  unfold Session.create at created
  split at created
  · cases created
  · rename_i absent
    obtain ⟨rfl, rfl⟩ := Prod.mk.inj (Except.ok.inj created)
    refine ⟨?_, rfl⟩
    unfold Store.find? at absent ⊢
    rw [List.find?_append, absent]
    simp

/-- **The record of a change walks through the diagram.**  Whatever operations follow on its
creation, and whether they are done or refused: each goes along an arrow of the diagram, notes
something or leaves the record as it was; a plan becomes challenged by an approval only, a
rejection ends by proposing the change anew only, an archived change stays archived; and the count
of revisions is the number of increments since the change was last proposed anew. -/
theorem record_walks_diagram {store start : Store} {description : String} {new : Change}
    (created : Session.create id description store = .ok (new, start))
    (operations : List Operation) :
    ∃ last, Walk { id, description, phase := .proposed } (course id start operations).1 last ∧
      (course id start operations).2.find? id = some last ∧
      last.iteration = increments (course id start operations).1 := by
  obtain ⟨found, rfl⟩ := find?_created created
  obtain ⟨last, walk, kept, counts⟩ := walk_from operations found ⟨rfl, rfl⟩
  exact ⟨last, walk, kept, counts.iteration⟩

/-- A rejected plan is revised once more after it was proposed anew, and cannot be archived before:
its record counts one revision, of two. -/
theorem reopened_record_counts_anew :
    let new : Change := { id := "search", description := "Search" }
    let operations : List Operation := [.setSessionId (some "s"), .incrementIteration,
      .applyVerdict .rejected, .archive, .reenter, .incrementIteration, .applyVerdict .approved]
    Session.create "search" "Search" {} = .ok (new, { changes := [new] }) ∧
      ∃ last, Walk new (course "search" { changes := [new] } operations).1 last ∧
        last.iteration = 1 := by
  intro new operations
  have created : Session.create "search" "Search" {} = .ok (new, { changes := [new] }) := rfl
  obtain ⟨last, walk, -, counted⟩ := record_walks_diagram created operations
  have once : increments (course "search" { changes := [new] } operations).1 = 1 := by rfl
  rw [once] at counted
  exact ⟨created, last, walk, counted⟩

end Change

end PlanCycle
