/-
Module: PlanCycle.Store.Script
Purpose: Sessions one after the other, each with several pieces of work.
Main exports:
  BatchAnswer, Session.batch, Store.runScript
-/
import PlanCycle.Store.Session

namespace PlanCycle

/-- What became of the pieces of work of one session: the answers up to the first piece that was
stopped, and what stopped it. -/
structure BatchAnswer (α : Type) where
  answers : List α := []
  stop : Option Stop := none
deriving Repr, Inhabited, DecidableEq

namespace Session

/-- Does pieces of work one after the other on one copy of the store.  There is no new store if
one of them is stopped. -/
def batch {α : Type} : List (Session α) → Store → BatchAnswer α × Option Store
  | [], store => ({}, some store)
  | work :: works, store =>
    match work store with
    | .error stop => ({ stop }, none)
    | .ok (answer, store) =>
      let (done, after) := batch works store
      ({ done with answers := answer :: done.answers }, after)

end Session

namespace Store

/-- Runs sessions one after the other.  One that is stopped leaves the store as it was. -/
def runScript {α : Type} (store : Store) : List (List (Session α)) → List (BatchAnswer α) × Store
  | [] => ([], store)
  | works :: sessions =>
    let (answer, after) := Session.batch works store
    let (answers, last) := runScript (after.getD store) sessions
    (answer :: answers, last)

end Store

end PlanCycle
