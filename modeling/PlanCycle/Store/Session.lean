/-
Module: PlanCycle.Store.Session
Purpose: Changing the store in sessions that are kept as a whole or not at all.
Main exports:
  Session, Session.commit, Session.load, Session.save, Session.addReview, Session.record,
  Session.logEvent
-/
import PlanCycle.Store.Basic

namespace PlanCycle

open Number

/-- Work on a copy of the store.  What stops it leaves no new store behind. -/
abbrev Session (α : Type) := Store → Except Stop (α × Store)

namespace Session

/-- No work. -/
def done {α : Type} (value : α) : Session α := fun store => .ok (value, store)

/-- Work after other work. -/
def andThen {α β : Type} (first : Session α) (next : α → Session β) : Session β := fun store =>
  match first store with
  | .ok (value, store) => next value store
  | .error stop => .error stop

instance : Monad Session where
  pure := done
  bind := andThen

/-- Stops for a failure. -/
def fail {α : Type} (failure : Failure) : Session α := fun _ => .error (.failure failure)

/-- Stops for a breakdown. -/
def breakDown {α : Type} (breakdown : Breakdown) : Session α := fun _ =>
  .error (.breakdown breakdown)

/-- A look at the store. -/
def look {α : Type} (view : Store → α) : Session α := fun store => .ok (view store, store)

/-- A change of the store. -/
def alter (change : Store → Store) : Session Unit := fun store => .ok ((), change store)

/-- The store after a session: the new one if nothing stopped it, else the old one. -/
def commit {α : Type} (work : Session α) (store : Store) : Except Stop α × Store :=
  match work store with
  | .ok (value, after) => (.ok value, after)
  | .error stop => (.error stop, store)

/-- The greatest number that fits into a record is below this. -/
def numberLimit : Int := 9223372036854775808

/-- Whether numbers fit into a record. -/
def fits (numbers : List Int) : Bool :=
  numbers.all fun n => -numberLimit ≤ n && n < numberLimit

/-- Stops unless numbers fit into a record. -/
def requireFit (numbers : List Int) : Session Unit :=
  if fits numbers then done () else breakDown .overflow

/-- The record of a change, which has to be there. -/
def load (id : String) : Session Change := fun store =>
  match store.find? id with
  | some change => .ok (change, store)
  | none => .error (.failure (.changeNotFound id))

/-- Puts a record in the place of the one with its id. -/
def save (change : Change) : Session Unit := do
  requireFit [change.iteration]
  alter fun store =>
    { store with
      changes := store.changes.map fun known => if known.id = change.id then change else known }

/-- Adds the record of a new change. -/
def create (id description : String) : Session Change := fun store =>
  match store.find? id with
  | some _ => .error (.breakdown .duplicateChange)
  | none =>
    let change : Change := { id, description }
    .ok (change, { store with changes := store.changes ++ [change] })

/-- Changes the record of a change. -/
def modify (id : String) (edit : Change → Change) : Session Change := do
  let change ← load id
  save (edit change)
  return edit change

/-- Changes the record of a change unless that fails. -/
def advance (id : String) (step : Change → Except Failure Change) : Session Change := do
  let change ← load id
  match step change with
  | .ok moved => do
    save moved
    return moved
  | .error failure => fail failure

/-- Adds a review of a change that is there; the answer is the number of its row. -/
def addReview (entry : ReviewEntry) : Session Nat := do
  let _ ← load entry.changeId
  requireFit [entry.iteration]
  alter fun store => { store with reviews := store.reviews ++ [entry] }
  look fun store => store.reviews.length

/-- Adds a usage record. -/
def addUsage (id : String) (usage : UsageRecord) : Session UsageRecord := do
  requireFit [usage.tokensIn, usage.tokensOut, usage.duration]
  alter fun store => { store with usage := store.usage ++ [.ofRecord id usage] }
  return usage

/-- Records the use of an agent at the prices of a table. -/
def record (table : PriceTable) (id step : String) (usage : TokenUsage) : Session UsageRecord :=
  addUsage id (.ofUsage table step usage)

/-- Adds an event to the execution log; the answer is the number of its row. -/
def logEvent (entry : LogEntry) : Session Nat := do
  requireFit entry.durationMs.toList
  let details := if entry.details.isPresent then entry.details else .object []
  alter fun store => { store with log := store.log ++ [{ entry with details }] }
  look fun store => store.log.length

/-- A session that stops leaves the store as it was. -/
theorem commit_of_stop {α : Type} {work : Session α} {store : Store} {stop : Stop}
    (stopped : work store = .error stop) : work.commit store = (.error stop, store) := by
  simp [commit, stopped]

end Session

end PlanCycle
