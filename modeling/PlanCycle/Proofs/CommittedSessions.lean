/-
Module: PlanCycle.Proofs.CommittedSessions
Purpose: Sessions that are stopped leave no trace.  Without them all others answer the same and
  leave the same tables; these hold the rows of the other sessions only, numbered as they came.
Main exports:
  StoreOperation.Done, StoreOperation.done_of_work, ReviewEntry.IsLatest, Store.Records,
  Store.stopped_sessions_leave_no_trace
-/
import Mathlib.Data.List.Basic
import PlanCycle.Proofs.Execution
import PlanCycle.Store.Operation

namespace PlanCycle

open Number

/-! ### What single operations leave -/

/-- Whether a review is one of a change, and of the kind and of the document that are named. -/
def ReviewEntry.IsOf (id : String) (kind artifact : Option String) (entry : ReviewEntry) : Prop :=
  entry.changeId = id ∧ (∀ named, kind = some named → entry.kind = named) ∧
    ∀ named, artifact = some named → entry.artifact = named

/-- Whether the last one of reviews that have a property is the given one, or none has it. -/
def ReviewEntry.IsLatest (has : ReviewEntry → Prop) (reviews : List ReviewEntry) :
    Option ReviewEntry → Prop
  | none => ∀ entry ∈ reviews, ¬has entry
  | some entry => has entry ∧ ∃ earlier later, reviews = earlier ++ entry :: later ∧
      ∀ other ∈ later, ¬has other

namespace StoreOperation

/-- The review that an operation adds. -/
def review? : StoreOperation → Option ReviewEntry
  | .addReview entry => some entry
  | _ => none

/-- The usage record that an operation adds. -/
def used? (prices : PriceTable) : StoreOperation → Option UsageEntry
  | .recordUsage id step spent => some (.ofRecord id (.ofUsage prices step spent))
  | _ => none

/-- The event that an operation logs. -/
def logged? : StoreOperation → Option LogEntry
  | .logEvent entry =>
    some { entry with details := if entry.details.isPresent then entry.details else .object [] }
  | _ => none

/-- Whether an operation that numbers its row or asks for a review answers from the records as they
are: the next number, or the last review of those asked for. -/
def AnswersFrom (store : Store) (answer : StoreAnswer) : StoreOperation → Prop
  | .addReview _ => answer = .row (store.reviews.length + 1)
  | .logEvent _ => answer = .row (store.log.length + 1)
  | .latestReview id kind artifact =>
    ∃ entry, answer = .review entry ∧
      ReviewEntry.IsLatest (ReviewEntry.IsOf id kind artifact) store.reviews entry
  | _ => True

/-- What an operation that is done has added behind the rows of each table, and what it answers. -/
structure Done (prices : PriceTable) (operation : StoreOperation) (store : Store)
    (answer : StoreAnswer) (after : Store) : Prop where
  reviews : after.reviews = store.reviews ++ operation.review?.toList
  usage : after.usage = store.usage ++ (operation.used? prices).toList
  log : after.log = store.log ++ operation.logged?.toList
  answers : operation.AnswersFrom store answer

end StoreOperation

theorem Store.latestReview?_isLatest (store : Store) (id : String) (kind artifact : Option String) :
    ReviewEntry.IsLatest (ReviewEntry.IsOf id kind artifact) store.reviews
      (store.latestReview? id kind artifact) := by
  have named (wanted : Option String) (word : String) :
      (wanted.map (· == word)).getD true = true ↔ ∀ name, wanted = some name → word = name := by
    cases wanted with
    | none => simp
    | some name =>
        simp only [Option.map_some, Option.getD_some, beq_iff_eq, Option.some.injEq, forall_eq']
        exact eq_comm
  have matching (entry : ReviewEntry) :
      (entry.changeId == id && (kind.map (· == entry.kind)).getD true &&
        (artifact.map (· == entry.artifact)).getD true) = true ↔
          ReviewEntry.IsOf id kind artifact entry := by
    rw [Bool.and_eq_true, Bool.and_eq_true, named, named, beq_iff_eq, and_assoc]
    rfl
  have reversed : store.latestReview? id kind artifact =
      store.reviews.reverse.find? fun entry =>
        entry.changeId == id && (kind.map (· == entry.kind)).getD true &&
          (artifact.map (· == entry.artifact)).getD true := by
    unfold latestReview? reviewsOf
    rw [← List.head?_reverse, ← List.filter_reverse, List.head?_filter]
  rw [reversed]
  cases found : store.reviews.reverse.find? _ with
  | none =>
      intro entry member has
      have refused := List.find?_eq_none.mp found entry (List.mem_reverse.mpr member)
      exact refused ((matching entry).mpr has)
  | some entry =>
      obtain ⟨has, later, earlier, split, refused⟩ := List.find?_eq_some_iff_append.mp found
      refine ⟨(matching entry).mp has, earlier.reverse, later.reverse, ?_, ?_⟩
      · rw [← List.reverse_reverse store.reviews, split]
        simp
      · intro other member has
        have unmatched := refused other (List.mem_reverse.mp member)
        rw [(matching other).mpr has] at unmatched
        cases unmatched

namespace Session

/-- What was logged is the last row, whether it took a measured time or not. -/
theorem logEvent_ok {entry : LogEntry} {store last : Store} {row : Nat}
    (worked : logEvent entry store = .ok (row, last)) :
    row = store.log.length + 1 ∧ last = store.logged entry := by
  unfold logEvent at worked
  obtain ⟨_, _, fit, rest⟩ := bind_ok_iff.1 worked
  obtain ⟨-, rfl⟩ := requireFit_ok_iff.1 fit
  obtain ⟨_, _, altered, looked⟩ := bind_ok_iff.1 rest
  cases altered
  cases looked
  exact ⟨by simp, rfl⟩

theorem record_ok {prices : PriceTable} {id step : String} {usage : TokenUsage}
    {store last : Store} {record : UsageRecord}
    (worked : Session.record prices id step usage store = .ok (record, last)) :
    record = .ofUsage prices step usage ∧
      last = { store with usage := store.usage ++ [.ofRecord id (.ofUsage prices step usage)] } := by
  unfold Session.record addUsage at worked
  obtain ⟨_, _, fit, rest⟩ := bind_ok_iff.1 worked
  obtain ⟨-, rfl⟩ := requireFit_ok_iff.1 fit
  obtain ⟨_, _, altered, ended⟩ := bind_ok_iff.1 rest
  cases altered
  obtain ⟨rfl, rfl⟩ := pure_ok_iff.1 ended
  exact ⟨rfl, rfl⟩

theorem create_ok {id description : String} {store last : Store} {change : Change}
    (worked : create id description store = .ok (change, last)) :
    last = { store with changes := store.changes ++ [change] } := by
  unfold create at worked
  split at worked
  · cases worked
  · cases worked
    rfl

end Session

namespace StoreOperation

variable {prices : PriceTable} {operation : StoreOperation} {store after : Store}
variable {answer : StoreAnswer}

/-- An operation adds what it is for, and nothing else. -/
theorem done_of_work (worked : operation.work prices store = .ok (answer, after)) :
    operation.Done prices store answer after := by
  -- Whatever only looks or only exchanges the record of a change leaves the three tables alone.
  have aside {last : Store} (plain : operation.review? = none ∧ operation.used? prices = none ∧
        operation.logged? = none) (answers : operation.AnswersFrom store answer)
      (same : last.reviews = store.reviews ∧ last.usage = store.usage ∧ last.log = store.log) :
      operation.Done prices store answer last := by
    obtain ⟨review, used, logged⟩ := plain
    obtain ⟨reviews, usage, log⟩ := same
    exact ⟨by simp [review, reviews], by simp [used, usage], by simp [logged, log], answers⟩
  have none_added : (none : Option ReviewEntry) = none ∧ (none : Option UsageEntry) = none ∧
      (none : Option LogEntry) = none := ⟨rfl, rfl, rfl⟩
  cases operation with
  | create id description =>
      obtain ⟨change, _, created, ended⟩ := Session.bind_ok_iff.1 worked
      obtain ⟨-, rfl⟩ := Session.pure_ok_iff.1 ended
      exact aside none_added trivial (by simp [Session.create_ok created])
  | find id | countReviews id kind | recentLog id limit | usage id | totals id =>
      obtain ⟨_, _, looked, ended⟩ := Session.bind_ok_iff.1 worked
      cases looked
      obtain ⟨-, rfl⟩ := Session.pure_ok_iff.1 ended
      exact aside none_added trivial ⟨rfl, rfl, rfl⟩
  | phase id =>
      obtain ⟨_, _, loaded, ended⟩ := Session.bind_ok_iff.1 worked
      obtain ⟨-, rfl⟩ := Session.load_ok_iff.1 loaded
      obtain ⟨-, rfl⟩ := Session.pure_ok_iff.1 ended
      exact aside none_added trivial ⟨rfl, rfl, rfl⟩
  | applyVerdict id verdict | moveTo id target | reenter id =>
      obtain ⟨_, _, advanced, ended⟩ := Session.bind_ok_iff.1 worked
      obtain ⟨_, -, -, -, rfl⟩ := Session.advance_ok_iff.1 advanced
      obtain ⟨-, rfl⟩ := Session.pure_ok_iff.1 ended
      exact aside none_added trivial ⟨rfl, rfl, rfl⟩
  | countRevision id | setSession id sessionId | setAction id action =>
      obtain ⟨_, _, modified, ended⟩ := Session.bind_ok_iff.1 worked
      obtain ⟨_, -, -, -, rfl⟩ := Session.modify_ok_iff.1 modified
      obtain ⟨-, rfl⟩ := Session.pure_ok_iff.1 ended
      exact aside none_added trivial ⟨rfl, rfl, rfl⟩
  | latestReview id kind artifact =>
      obtain ⟨_, _, looked, ended⟩ := Session.bind_ok_iff.1 worked
      cases looked
      obtain ⟨rfl, rfl⟩ := Session.pure_ok_iff.1 ended
      exact aside none_added ⟨_, rfl, store.latestReview?_isLatest id kind artifact⟩ ⟨rfl, rfl, rfl⟩
  | addReview entry =>
      obtain ⟨row, _, added, ended⟩ := Session.bind_ok_iff.1 worked
      obtain ⟨-, -, rfl, rfl⟩ := Session.addReview_ok_iff.1 added
      obtain ⟨rfl, rfl⟩ := Session.pure_ok_iff.1 ended
      exact ⟨rfl, (List.append_nil _).symm, (List.append_nil _).symm, by simp [AnswersFrom]⟩
  | logEvent entry =>
      obtain ⟨row, _, logged, ended⟩ := Session.bind_ok_iff.1 worked
      obtain ⟨rfl, rfl⟩ := Session.logEvent_ok logged
      obtain ⟨rfl, rfl⟩ := Session.pure_ok_iff.1 ended
      exact ⟨(List.append_nil _).symm, (List.append_nil _).symm, rfl, rfl⟩
  | recordUsage id step usage =>
      obtain ⟨record, _, recorded, ended⟩ := Session.bind_ok_iff.1 worked
      obtain ⟨-, rfl⟩ := Session.pure_ok_iff.1 ended
      obtain ⟨-, rfl⟩ := Session.record_ok recorded
      exact ⟨(List.append_nil _).symm, rfl, (List.append_nil _).symm, trivial⟩

end StoreOperation

/-! ### What operations leave one after the other -/

/-- Operations that are all done, one after the other, with their answers. -/
inductive StoreOperation.AllDone (prices : PriceTable) :
    List StoreOperation → Store → List StoreAnswer → Store → Prop
  | none {store : Store} : AllDone prices [] store [] store
  | next {operation : StoreOperation} {operations : List StoreOperation}
      {store between last : Store} {answer : StoreAnswer} {answers : List StoreAnswer}
      (one : operation.work prices store = .ok (answer, between))
      (rest : AllDone prices operations between answers last) :
      AllDone prices (operation :: operations) store (answer :: answers) last

/-- How a store comes from another one by operations with these answers: behind the rows of each
table stand those that were added, in order.  A new row is answered with the next number, and who
asks for the last review gets the last one of all that were added before. -/
structure Store.Records (prices : PriceTable) (store : Store) (operations : List StoreOperation)
    (answers : List StoreAnswer) (last : Store) : Prop where
  answered : answers.length = operations.length
  reviews : last.reviews = store.reviews ++ operations.filterMap (·.review?)
  usage : last.usage = store.usage ++ operations.filterMap (·.used? prices)
  log : last.log = store.log ++ operations.filterMap (·.logged?)
  reviewRows : ∀ earlier entry later, operations = earlier ++ .addReview entry :: later →
    answers[earlier.length]? =
      some (.row (store.reviews.length + (earlier.filterMap (·.review?)).length + 1))
  logRows : ∀ earlier entry later, operations = earlier ++ .logEvent entry :: later →
    answers[earlier.length]? =
      some (.row (store.log.length + (earlier.filterMap (·.logged?)).length + 1))
  latest : ∀ earlier id kind artifact later,
    operations = earlier ++ .latestReview id kind artifact :: later →
      ∃ entry, answers[earlier.length]? = some (.review entry) ∧
        ReviewEntry.IsLatest (ReviewEntry.IsOf id kind artifact)
          (store.reviews ++ earlier.filterMap (·.review?)) entry

namespace StoreOperation.AllDone

variable {prices : PriceTable} {operations more earlier later : List StoreOperation}
variable {operation : StoreOperation} {store between last : Store}
variable {answers others : List StoreAnswer}

theorem append (one : AllDone prices operations store answers between)
    (two : AllDone prices more between others last) :
    AllDone prices (operations ++ more) store (answers ++ others) last := by
  induction one with
  | none => exact two
  | next worked _ ih => exact .next worked (ih two)

theorem length_eq (done : AllDone prices operations store answers last) :
    answers.length = operations.length := by
  induction done with
  | none => rfl
  | next _ _ ih => simp [ih]

/-- The rows of each table, behind those that were there. -/
theorem tables (done : AllDone prices operations store answers last) :
    last.reviews = store.reviews ++ operations.filterMap (·.review?) ∧
      last.usage = store.usage ++ operations.filterMap (·.used? prices) ∧
      last.log = store.log ++ operations.filterMap (·.logged?) := by
  have behind {α : Type} (added : StoreOperation → Option α) (operation : StoreOperation)
      (operations : List StoreOperation) :
      (operation :: operations).filterMap added =
        (added operation).toList ++ operations.filterMap added := by
    simp only [List.filterMap_eq_flatMap_toList, List.flatMap_cons]
  induction done with
  | none => simp
  | next worked _ ih =>
      obtain ⟨reviews, usage, log, -⟩ := done_of_work worked
      obtain ⟨moreReviews, moreUsage, moreLog⟩ := ih
      refine ⟨?_, ?_, ?_⟩
      · rw [moreReviews, reviews, List.append_assoc, behind]
      · rw [moreUsage, usage, List.append_assoc, behind]
      · rw [moreLog, log, List.append_assoc, behind]

/-- An operation among others is done where those before it end. -/
theorem at_split (done : AllDone prices operations store answers last)
    (split : operations = earlier ++ operation :: later) :
    ∃ before between answer after, AllDone prices earlier store before between ∧
      operation.Done prices between answer after ∧ answers[earlier.length]? = some answer := by
  induction earlier generalizing operations store answers with
  | nil =>
      subst split
      cases done with
      | next worked rest => exact ⟨[], _, _, _, .none, done_of_work worked, rfl⟩
  | cons first earlier ih =>
      subst split
      cases done with
      | next worked rest =>
          obtain ⟨before, between, answer, after, begun, done, answered⟩ := ih rest rfl
          exact ⟨_ :: before, between, answer, after, .next worked begun, done, answered⟩

/-- Operations that are all done leave their records. -/
theorem records (done : AllDone prices operations store answers last) :
    Store.Records prices store operations answers last := by
  obtain ⟨reviews, usage, log⟩ := done.tables
  refine ⟨done.length_eq, reviews, usage, log, fun earlier entry later split => ?_,
    fun earlier entry later split => ?_, fun earlier id kind artifact later split => ?_⟩
  · obtain ⟨_, between, answer, _, begun, one, answered⟩ := done.at_split split
    have answer_eq : answer = .row (between.reviews.length + 1) := one.answers
    rw [answered, answer_eq, begun.tables.1, List.length_append]
  · obtain ⟨_, between, answer, _, begun, one, answered⟩ := done.at_split split
    have answer_eq : answer = .row (between.log.length + 1) := one.answers
    rw [answered, answer_eq, begun.tables.2.2, List.length_append]
  · obtain ⟨_, between, answer, _, begun, one, answered⟩ := done.at_split split
    obtain ⟨entry, rfl, latest⟩ := one.answers
    rw [begun.tables.1] at latest
    exact ⟨entry, answered, latest⟩

end StoreOperation.AllDone

/-! ### Sessions that are kept -/

section
variable {prices : PriceTable} {operations : List StoreOperation} {store between : Store}
variable {answers : List StoreAnswer}

theorem StoreOperation.AllDone.batch_eq
    (done : AllDone prices operations store answers between) :
    Session.batch (operations.map (·.work prices)) store = ({ answers }, some between) := by
  induction done with
  | none => rfl
  | next worked _ ih =>
      rw [List.map_cons]
      simp only [Session.batch, worked, ih]

/-- A session all of whose operations are done is kept, and the others go on from it. -/
theorem StoreOperation.AllDone.perform_cons
    (done : AllDone prices operations store answers between)
    (sessions : List (List StoreOperation)) :
    store.perform prices (operations :: sessions) =
      ({ answers } :: (between.perform prices sessions).1,
        (between.perform prices sessions).2) := by
  simp only [Store.perform, List.map_cons, Store.runScript, done.batch_eq, Option.getD_some]

/-- All operations of a session are done, or it is stopped at one of them. -/
theorem Session.batch_cases (operations : List StoreOperation) (store : Store) :
    (∃ answers last, StoreOperation.AllDone prices operations store answers last) ∨
      ∃ answers stop, Session.batch (operations.map (·.work prices)) store =
        ({ answers, stop := some stop }, none) := by
  induction operations generalizing store with
  | nil => exact .inl ⟨[], store, .none⟩
  | cons operation operations ih =>
      cases worked : operation.work prices store with
      | error stop =>
          refine .inr ⟨[], stop, ?_⟩
          simp only [List.map_cons, Session.batch, worked]
      | ok done =>
          obtain ⟨answer, between⟩ := done
          rcases ih between with ⟨answers, last, rest⟩ | ⟨answers, stop, stopped⟩
          · exact .inl ⟨answer :: answers, last, .next worked rest⟩
          · refine .inr ⟨answer :: answers, stop, ?_⟩
            simp only [List.map_cons, Session.batch, worked, stopped]

end

namespace Store

/-- The sessions that nothing stopped, each with its answers. -/
def kept (store : Store) (prices : PriceTable) (sessions : List (List StoreOperation)) :
    List (List StoreOperation × BatchAnswer StoreAnswer) :=
  (sessions.zip (store.perform prices sessions).1).filter (·.2.stop.isNone)

/-- A session is kept and the others go on from it, or it is stopped and they begin where it
began. -/
theorem kept_cases (store : Store) (prices : PriceTable) (operations : List StoreOperation)
    (sessions : List (List StoreOperation)) :
    (∃ answers between, StoreOperation.AllDone prices operations store answers between ∧
        store.kept prices (operations :: sessions) =
          (operations, { answers }) :: between.kept prices sessions ∧
        (store.perform prices (operations :: sessions)).2 = (between.perform prices sessions).2) ∨
      store.kept prices (operations :: sessions) = store.kept prices sessions ∧
        (store.perform prices (operations :: sessions)).2 = (store.perform prices sessions).2 := by
  rcases Session.batch_cases operations store with ⟨answers, between, done⟩ | ⟨answers, stop, same⟩
  · refine .inl ⟨answers, between, done, ?_, ?_⟩
    · unfold kept
      rw [done.perform_cons]
      rfl
    · rw [done.perform_cons]
  · have stopped : store.perform prices (operations :: sessions) =
        ({ answers, stop := some stop } :: (store.perform prices sessions).1,
          (store.perform prices sessions).2) := by
      simp only [perform, List.map_cons, runScript, same, Option.getD_none]
    refine .inr ⟨?_, ?_⟩
    · unfold kept
      rw [stopped]
      rfl
    · rw [stopped]

/-- Without the sessions that were stopped the others answer the same and leave the same, and all of
their operations are done one after the other. -/
theorem perform_kept (store : Store) (prices : PriceTable)
    (sessions : List (List StoreOperation)) :
    store.perform prices ((store.kept prices sessions).map (·.1)) =
        ((store.kept prices sessions).map (·.2), (store.perform prices sessions).2) ∧
      StoreOperation.AllDone prices ((store.kept prices sessions).flatMap (·.1)) store
        ((store.kept prices sessions).flatMap (·.2.answers)) (store.perform prices sessions).2 := by
  induction sessions generalizing store with
  | nil => exact ⟨rfl, .none⟩
  | cons operations sessions ih =>
      rcases store.kept_cases prices operations sessions with
        ⟨answers, between, done, kept_eq, last_eq⟩ | ⟨kept_eq, last_eq⟩
      · obtain ⟨again, rest⟩ := ih between
        rw [kept_eq, last_eq]
        refine ⟨?_, done.append rest⟩
        rw [List.map_cons, List.map_cons, done.perform_cons, again]
      · rw [kept_eq, last_eq]
        exact ih store

/-- **Sessions that are stopped leave no trace.**  Whatever was asked of a store, without all the
sessions that something stopped each other one gives the same answers, and the tables are the same
in the end.  They hold the rows of the sessions that were kept and no others, numbered in this order
from one on, and who asks for the last review gets the last one of those that were kept, as far as
it was asked for. -/
theorem stopped_sessions_leave_no_trace (store : Store) (prices : PriceTable)
    (sessions : List (List StoreOperation)) :
    let kept := (sessions.zip (store.perform prices sessions).1).filter (·.2.stop.isNone)
    let last := (store.perform prices sessions).2
    store.perform prices (kept.map (·.1)) = (kept.map (·.2), last) ∧
      store.Records prices (kept.flatMap (·.1)) (kept.flatMap (·.2.answers)) last := by
  obtain ⟨again, done⟩ := store.perform_kept prices sessions
  exact ⟨again, done.records⟩

/-- A session that completes a change too early takes its review back, and the next review gets the
number again. -/
example (prices : PriceTable) :
    let review : ReviewEntry :=
      { changeId := "c1", artifact := "proposal", kind := "critic", verdict := "approved" }
    ((Store.perform {} prices
      [[.create "c1" ""], [.addReview review, .moveTo "c1" .complete], [.addReview review]]).1.map
        (·.answers.getLast?)).drop 1 = [some (.row 1), some (.row 1)] := rfl

end Store

end PlanCycle
