/-
Module: PlanCycle.Store.Operation
Purpose: The single pieces of work on the store, and what each answers.
Main exports:
  StoreOperation, StoreAnswer, StoreOperation.work, Store.perform
-/
import PlanCycle.Store.Script

namespace PlanCycle

/-- A piece of work on the records of the store. -/
inductive StoreOperation where
  /-- Adds the record of a new change. -/
  | create (id description : String)
  | find (id : String)
  /-- Looks at the phase of a change, which has to be on record. -/
  | phase (id : String)
  | applyVerdict (id : String) (verdict : Verdict)
  | moveTo (id : String) (target : Phase)
  | reenter (id : String)
  | countRevision (id : String)
  | setSession (id : String) (sessionId : Option String)
  | setAction (id : String) (action : Option String)
  | addReview (entry : ReviewEntry)
  | latestReview (id : String) (kind artifact : Option String)
  | countReviews (id : String) (kind : Option String)
  | logEvent (entry : LogEntry)
  | recentLog (id : String) (limit : Int)
  | recordUsage (id step : String) (spent : TokenUsage)
  | usage (id : String)
  | totals (id : String)
deriving Inhabited

/-- What a piece of work answers. -/
inductive StoreAnswer where
  /-- The record of a change as it is then. -/
  | change (change : Change)
  | found (change : Option Change)
  /-- The number of the row that was added. -/
  | row (number : Nat)
  | review (entry : Option ReviewEntry)
  | count (number : Nat)
  | log (entries : List LogEntry)
  | usage (records : List UsageRecord)
  | totals (totals : UsageTotals)
deriving Inhabited

/-- What a piece of work does, at the prices of a table. -/
def StoreOperation.work (prices : PriceTable) : StoreOperation → Session StoreAnswer
  | .create id description => return .change (← Session.create id description)
  | .find id => return .found (← Session.look (·.find? id))
  | .phase id => return .change (← Session.load id)
  | .applyVerdict id verdict => return .change (← Session.advance id (·.applyVerdict verdict))
  | .moveTo id target => return .change (← Session.advance id (·.moveTo target))
  | .reenter id => return .change (← Session.advance id (·.reenter))
  | .countRevision id =>
    return .change (← Session.modify id fun change =>
      { change with iteration := change.iteration + 1 })
  | .setSession id sessionId =>
    return .change (← Session.modify id fun change => { change with sessionId })
  | .setAction id action =>
    return .change (← Session.modify id fun change => { change with lastAction := action })
  | .addReview entry => return .row (← Session.addReview entry)
  | .latestReview id kind artifact =>
    return .review (← Session.look (·.latestReview? id kind artifact))
  | .countReviews id kind => return .count (← Session.look (·.reviewsOf id kind)).length
  | .logEvent entry => return .row (← Session.logEvent entry)
  | .recentLog id limit => return .log (← Session.look (·.recentLog id limit))
  | .recordUsage id step spent => return .usage [← Session.record prices id step spent]
  | .usage id => return .usage (← Session.look (·.usageOf id))
  | .totals id => return .totals (summarize (← Session.look (·.usageOf id)))

/-- Performs pieces of work in sessions, one session after the other. -/
def Store.perform (store : Store) (prices : PriceTable) (sessions : List (List StoreOperation)) :
    List (BatchAnswer StoreAnswer) × Store :=
  store.runScript (sessions.map (·.map (·.work prices)))

end PlanCycle
