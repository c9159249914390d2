/-
Module: PlanCycle.Proofs.RecordedUsage
Purpose: Usage records are read back as they were returned when they were made, whatever sessions
  lie between and whatever their costs look like; only the zone of their times is lost.
Main exports:
  PricedOperation, PricedOperation.returned?, Store.returnedUsage, Store.usageOf_batch,
  Store.recorded_usage_is_read_back, Store.record_is_read_without_zone
-/
import Mathlib.Data.List.Forall2
import PlanCycle.Proofs.CommittedSessions

namespace PlanCycle

open Number

/-! ### Texts in the column of costs -/

namespace Number.DecimalText

/-- A text that is read from the column is written as it was. -/
theorem text_toDecimal (column : DecimalText) : column.toDecimal.text = column.text := by
  obtain ⟨text, d, rfl⟩ := column
  exact congrArg Decimal.text (toDecimal_ofDecimal d)

end Number.DecimalText

/-- The text of a cost is the text that is kept of it. -/
theorem UsageEntry.text_usage (entry : UsageEntry) : entry.usage.cost.text = entry.cost.text := by
  simp only [usage, DecimalText.text_toDecimal]

/-! ### Calls that record usage -/

/-- A piece of work on the store, and the prices at which it is done. -/
abbrev PricedOperation := PriceTable × StoreOperation

namespace PricedOperation

/-- What a piece of work does at its prices. -/
def work (operation : PricedOperation) : Session StoreAnswer :=
  operation.2.work operation.1

/-- The usage record that a piece of work answers with if it records the use of an agent for a
change. -/
def returned? (id : String) (call : PricedOperation × StoreAnswer) : Option UsageRecord :=
  match call.1.2, call.2 with
  | .recordUsage changeId _ _, .usage [record] => if changeId = id then some record else none
  | _, _ => none

/-- Whether a piece of work records the use of an agent with numbers that fit into a record. -/
def IsRecordable (operation : PricedOperation) : Prop :=
  ∃ changeId step spent, operation.2 = .recordUsage changeId step spent ∧
    (UsageRecord.ofUsage operation.1 step spent).Fits

/-- Whether an answer is the record of what was used, if that was to be recorded. -/
def IsAnsweredBy (operation : PricedOperation) (answer : StoreAnswer) : Prop :=
  ∀ changeId step spent, operation.2 = .recordUsage changeId step spent →
    answer = .usage [.ofUsage operation.1 step spent]

variable {operation : PricedOperation} {store after : Store} {answer : StoreAnswer}

theorem isAnsweredBy_of_work (worked : operation.work store = .ok (answer, after)) :
    operation.IsAnsweredBy answer := by
  obtain ⟨prices, operation⟩ := operation
  rintro changeId step spent rfl
  obtain ⟨record, _, recorded, ended⟩ := Session.bind_ok_iff.1 worked
  obtain ⟨rfl, -⟩ := Session.pure_ok_iff.1 ended
  rw [(Session.record_ok recorded).1]

/-- Nothing stops the recording of numbers that fit. -/
theorem work_of_recordable (recordable : operation.IsRecordable) (store : Store) :
    ∃ answer after, operation.work store = .ok (answer, after) := by
  obtain ⟨prices, operation⟩ := operation
  obtain ⟨changeId, step, spent, rfl, fits⟩ := recordable
  have small : Session.requireFit _ store = .ok ((), store) :=
    Session.requireFit_ok_iff.2 ⟨fits, rfl⟩
  exact ⟨_, _, Session.bind_of_ok (Session.bind_of_ok small)⟩

/-- The usage records of a change are afterwards those from before and the one that is returned, if
one is, as it is read. -/
theorem usageOf_work (id : String) (worked : operation.work store = .ok (answer, after)) :
    after.usageOf id =
      store.usageOf id ++ ((returned? id (operation, answer)).toList.map .asRead) := by
  have answered := isAnsweredBy_of_work worked
  obtain ⟨prices, operation⟩ := operation
  have table := (StoreOperation.done_of_work worked).usage
  have unchanged (none : operation.used? prices = none) : after.usageOf id = store.usageOf id := by
    unfold Store.usageOf
    rw [table, none, Option.toList_none, List.append_nil]
  cases operation with
  | recordUsage changeId step spent =>
      have added : (StoreOperation.recordUsage changeId step spent).used? prices =
          some (.ofRecord changeId (.ofUsage prices step spent)) := rfl
      obtain rfl := answered changeId step spent rfl
      unfold Store.usageOf
      rw [table, added, Option.toList_some, List.filter_append, List.map_append]
      by_cases same : changeId = id <;> simp [returned?, same]
  | _ => exact (unchanged rfl).trans (List.append_nil _).symm

end PricedOperation

/-! ### Sessions with such calls -/

namespace Store

variable {operations : List PricedOperation}

/-- A session is kept with an answer to each piece of work, and the usage records of a change that
were returned are read behind the older ones; or it is stopped at work that is not only to record
numbers that fit. -/
theorem usageOf_batch (id : String) (operations : List PricedOperation) (store : Store) :
    (∃ answers last, Session.batch (operations.map (·.work)) store = ({ answers }, some last) ∧
        List.Forall₂ PricedOperation.IsAnsweredBy operations answers ∧
        last.usageOf id = store.usageOf id ++
          ((operations.zip answers).filterMap (PricedOperation.returned? id)).map .asRead) ∨
      ∃ answers stop, Session.batch (operations.map (·.work)) store =
          ({ answers, stop := some stop }, none) ∧
        ¬∀ operation ∈ operations, operation.IsRecordable := by
  induction operations generalizing store with
  | nil => exact .inl ⟨[], store, rfl, .nil, (List.append_nil _).symm⟩
  | cons operation operations ih =>
      cases worked : operation.work store with
      | error stop =>
          refine .inr ⟨[], stop, ?_, fun all => ?_⟩
          · simp only [List.map_cons, Session.batch, worked]
          · obtain ⟨_, _, done⟩ :=
              PricedOperation.work_of_recordable (all operation List.mem_cons_self) store
            rw [worked] at done
            cases done
      | ok done =>
          obtain ⟨answer, between⟩ := done
          rcases ih between with
            ⟨answers, last, kept, answered, usage⟩ | ⟨answers, stop, stopped, other⟩
          · refine .inl ⟨answer :: answers, last, ?_,
              .cons (PricedOperation.isAnsweredBy_of_work worked) answered, ?_⟩
            · simp only [List.map_cons, Session.batch, worked, kept]
            · rw [usage, PricedOperation.usageOf_work id worked, List.append_assoc]
              simp only [List.zip_cons_cons, List.filterMap_eq_flatMap_toList, List.flatMap_cons,
                List.map_append]
          · refine .inr ⟨answer :: answers, stop, ?_, fun all => ?_⟩
            · simp only [List.map_cons, Session.batch, worked, stopped]
            · exact other fun operation member => all operation (List.mem_cons_of_mem _ member)

/-- The usage records of a change that sessions returned, as far as the sessions were kept. -/
def returnedUsage (id : String) (sessions : List (List PricedOperation))
    (answers : List (BatchAnswer StoreAnswer)) : List UsageRecord :=
  ((sessions.zip answers).filter (·.2.stop.isNone)).flatMap fun session =>
    (session.1.zip session.2.answers).filterMap (PricedOperation.returned? id)

theorem returnedUsage_cons_kept (id : String) (sessions : List (List PricedOperation))
    (answers : List StoreAnswer) (others : List (BatchAnswer StoreAnswer)) :
    returnedUsage id (operations :: sessions) ({ answers } :: others) =
      (operations.zip answers).filterMap (PricedOperation.returned? id) ++
        returnedUsage id sessions others := rfl

theorem returnedUsage_cons_stopped (id : String) (sessions : List (List PricedOperation))
    (answers : List StoreAnswer) (stop : Stop) (others : List (BatchAnswer StoreAnswer)) :
    returnedUsage id (operations :: sessions) ({ answers, stop := some stop } :: others) =
      returnedUsage id sessions others := rfl

/-- Whether a session that was kept answered each piece of its work, and a session was kept if it
was only to record numbers that fit. -/
structure IsSettled (session : List PricedOperation × BatchAnswer StoreAnswer) : Prop where
  answered : session.2.stop = none →
    List.Forall₂ PricedOperation.IsAnsweredBy session.1 session.2.answers
  kept : (∀ operation ∈ session.1, operation.IsRecordable) → session.2.stop = none

/-- Behind the older usage records of a change those are read that the kept sessions returned. -/
theorem usageOf_runScript (id : String) (sessions : List (List PricedOperation)) (store : Store) :
    let done := store.runScript (sessions.map (·.map (·.work)))
    done.2.usageOf id = store.usageOf id ++ (returnedUsage id sessions done.1).map .asRead ∧
      ∀ session ∈ sessions.zip done.1, IsSettled session := by
  induction sessions generalizing store with
  | nil => simp [runScript, returnedUsage]
  | cons operations sessions ih =>
      dsimp only at ih ⊢
      rcases usageOf_batch id operations store with
        ⟨answers, between, kept, answered, usage⟩ | ⟨answers, stop, stopped, other⟩
      · obtain ⟨records, settled⟩ := ih between
        simp only [List.map_cons, runScript, kept, Option.getD_some]
        rw [returnedUsage_cons_kept, records, usage, List.append_assoc, List.map_append]
        exact ⟨rfl, List.forall_mem_cons.mpr ⟨⟨fun _ => answered, fun _ => rfl⟩, settled⟩⟩
      · obtain ⟨records, settled⟩ := ih store
        simp only [List.map_cons, runScript, stopped, Option.getD_none]
        rw [returnedUsage_cons_stopped]
        exact ⟨records,
          List.forall_mem_cons.mpr ⟨⟨by simp, fun all => absurd all other⟩, settled⟩⟩

/-- A later session reads the usage records of a change and their totals and changes nothing. -/
theorem perform_usage (store : Store) (prices : PriceTable) (id : String) :
    store.perform prices [[.usage id, .totals id]] =
      ([{ answers := [.usage (store.usageOf id), .totals (summarize (store.usageOf id))] }],
        store) := rfl

/-- The costs of the usage records of a change have the texts that are kept of them. -/
theorem texts_of_usageOf (store : Store) (id : String) :
    (store.usageOf id).map (·.cost.text) =
      (store.usage.filter (·.changeId == id)).map (·.cost.text) := by
  unfold usageOf
  rw [List.map_map]
  exact List.map_congr_left fun entry _ => entry.text_usage

/-- What kept sessions return says in which zone its time is. -/
theorem zoned_of_returnedUsage {id : String} {sessions : List (List PricedOperation)}
    {answers : List (BatchAnswer StoreAnswer)}
    (settled : ∀ session ∈ sessions.zip answers, IsSettled session) {record : UsageRecord}
    (returned : record ∈ returnedUsage id sessions answers) : record.timestamp.isZoned = true := by
  obtain ⟨session, kept, returned⟩ := List.mem_flatMap.mp returned
  obtain ⟨among, kept⟩ := List.mem_filter.mp kept
  have answered := (settled session among).answered (by simpa using kept)
  obtain ⟨⟨⟨prices, operation⟩, answer⟩, paired, returned⟩ := List.mem_filterMap.mp returned
  have isAnswer : PricedOperation.IsAnsweredBy (prices, operation) answer :=
    (List.forall₂_iff_zip.mp answered).2 paired
  unfold PricedOperation.returned? at returned
  split at returned
  · rename_i changeId step spent given operation_eq answer_eq
    have same := (isAnswer changeId step spent operation_eq).symm.trans answer_eq
    split at returned
    · cases returned
      cases same
      rfl
    · cases returned
  · cases returned

/-- What summing looks at is read back. -/
theorem summarize_asRead (older records : List UsageRecord) :
    summarize (older ++ records.map .asRead) = summarize (older ++ records) := by
  have tokensIn : (records.map UsageRecord.asRead).map (·.tokensIn) = records.map (·.tokensIn) :=
    List.map_map.trans rfl
  have tokensOut :
      (records.map UsageRecord.asRead).map (·.tokensOut) = records.map (·.tokensOut) :=
    List.map_map.trans rfl
  simp only [summarize, List.length_append, List.length_map, List.map_append, tokensIn, tokensOut,
    List.foldl_append, List.foldl_map]
  rfl

/-- **Usage is read back as it was recorded, but for the zone of its time.**  Every decimal number,
whatever its sign, its digits and its exponent, is the one that is read from the text kept of it.
Therefore, whatever sessions record the use of agents at whatever prices, a later session answers
with just the records of a change that were returned by those that were kept, in this order and
behind older ones, with the totals of these records, and the texts that are kept are those of the
costs.  But each record was returned with a time in universal time and is read with a time in no
zone, so none of them is read back as it was returned: what is read is what was returned exactly if
no record was. -/
theorem recorded_usage_is_read_back (store : Store) (sessions : List (List PricedOperation))
    (id : String) (prices : PriceTable) (d : Decimal) :
    let done := store.runScript (sessions.map (·.map (·.work)))
    let older := store.usageOf id
    let returned := returnedUsage id sessions done.1
    ((DecimalText.ofDecimal d).text = d.text ∧ Decimal.read? d.text = some d ∧
      (DecimalText.ofDecimal d).toDecimal = d) ∧
    (∀ session ∈ sessions.zip done.1, IsSettled session) ∧
    done.2.perform prices [[.usage id, .totals id]] =
      ([{ answers := [.usage (older ++ returned.map .asRead),
            .totals (summarize (older ++ returned))] }],
        done.2) ∧
    (done.2.usage.filter (·.changeId == id)).map (·.cost.text) =
      (older ++ returned).map (·.cost.text) ∧
    (∀ record ∈ returned, record.timestamp.isZoned = true ∧ record.asRead ≠ record) ∧
    (done.2.usageOf id = older ++ returned ↔ returned = []) := by
  intro done older returned
  obtain ⟨read, settled⟩ := usageOf_runScript id sessions store
  have usage : done.2.usageOf id = older ++ returned.map .asRead := read
  have changed : ∀ record ∈ returned, record.timestamp.isZoned = true ∧ record.asRead ≠ record := by
    intro record member
    have zoned := zoned_of_returnedUsage settled member
    refine ⟨zoned, fun same => ?_⟩
    have unzoned : record.asRead.timestamp.isZoned = false := rfl
    rw [same, zoned] at unzoned
    cases unzoned
  refine ⟨⟨rfl, d.read?_text, DecimalText.toDecimal_ofDecimal d⟩, settled, ?_, ?_, changed, ?_⟩
  · rw [perform_usage, usage, summarize_asRead]
  · rw [← texts_of_usageOf, usage, List.map_append, List.map_append, List.map_map]
    rfl
  · rw [usage, List.append_cancel_left_eq]
    refine ⟨fun same => ?_, fun none => by rw [none, List.map_nil]⟩
    cases listed : returned with
    | nil => rfl
    | cons record records =>
        rw [listed] at same changed
        exact absurd (List.cons.inj same).1 (changed record List.mem_cons_self).2

/-- One call is recorded and, in a later session, read: the time that is read is in no zone, so what
is read is not what was returned. -/
theorem record_is_read_without_zone :
    let spent : TokenUsage := { inputTokens := 5, outputTokens := 2, model := "m" }
    let sessions : List (List PricedOperation) :=
      [[([], .recordUsage "c1" "challenge" spent)], [([], .usage "c1")]]
    let done := Store.runScript {} (sessions.map (·.map (·.work)))
    let returned : UsageRecord := .ofUsage [] "challenge" spent
    returnedUsage "c1" sessions done.1 = [returned] ∧
      done.2.usageOf "c1" = [{ returned with timestamp := ⟨0, false⟩ }] ∧
      done.2.usageOf "c1" ≠ returnedUsage "c1" sessions done.1 := by decide +kernel

/-- Of three sessions the second one is stopped by a number that does not fit; of the others the
costs are read back with all their zeros and with an exponent. -/
example :
    let prices : PriceTable := [("m", ⟨⟨false, 100, -8⟩, ⟨false, 200, -2⟩⟩)]
    let call (inputTokens outputTokens : Int) : PricedOperation :=
      (prices, .recordUsage "c1" "challenge" { inputTokens, outputTokens, model := "m" })
    let sessions := [[call 5 0], [call 7 0, call 0 Session.numberLimit], [call 0 1500000]]
    let last := (Store.runScript {} (sessions.map (·.map (·.work)))).2
    (last.usageOf "c1").map (·.cost) = [⟨false, 500, -14⟩, ⟨false, 300000000, -8⟩] ∧
      last.usage.map (·.cost.text) = ["5.00E-12", "3.00000000"] := by decide +kernel

end Store

end PlanCycle
