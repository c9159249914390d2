/-
Module: PlanCycle.Store.Basic
Purpose: What is kept about changes: their records, reviews, usage and execution log.
Main exports:
  Store, ReviewEntry, UsageEntry, LogEntry, Store.latestReview?, Store.usageOf, Store.logOf
-/
import PlanCycle.Change.Record
import PlanCycle.Number.DecimalText
import PlanCycle.Usage.Ledger

namespace PlanCycle

open Number

/-- A review on record. -/
structure ReviewEntry where
  changeId : String
  artifact : String
  /-- What it was reviewed for: its own author's look or a critique of the plan. -/
  kind : String
  /-- The word of the verdict. -/
  verdict : String
  issues : List Json := []
  rawText : String := ""
  iteration : Int := 0
deriving Inhabited

/-- The use of an agent on record.  What it cost is kept as a text; of the time, the zone is not
kept. -/
structure UsageEntry where
  changeId : String
  step : String
  model : String
  tokensIn : Int
  tokensOut : Int
  cost : DecimalText
  duration : Int
  createdAt : Int
deriving Inhabited

/-- An event of the execution log. -/
structure LogEntry where
  changeId : String
  step : String
  event : String
  message : Option String := none
  details : Json := .object []
  durationMs : Option Int := none
deriving Inhabited

/-- All records, each table in the order in which its rows were added. -/
structure Store where
  changes : List Change := []
  reviews : List ReviewEntry := []
  usage : List UsageEntry := []
  log : List LogEntry := []
deriving Inhabited

namespace UsageEntry

/-- The entry about the use of an agent for a change. -/
def ofRecord (changeId : String) (usage : UsageRecord) : UsageEntry :=
  { changeId, step := usage.step, model := usage.model, tokensIn := usage.tokensIn
    tokensOut := usage.tokensOut, cost := .ofDecimal usage.cost, duration := usage.duration
    createdAt := usage.timestamp.moment }

/-- What an entry says about the use of an agent. -/
def usage (entry : UsageEntry) : UsageRecord :=
  { step := entry.step, model := entry.model, tokensIn := entry.tokensIn
    tokensOut := entry.tokensOut, cost := entry.cost.toDecimal, duration := entry.duration
    timestamp := ⟨entry.createdAt, false⟩ }

end UsageEntry

namespace ReviewEntry

/-- The kind of a critique of the plan. -/
def critique : String := "challenge"

/-- The kind of an author's look at its own document. -/
def selfReview : String := "self-review"

end ReviewEntry

namespace Store

/-- The record of a change. -/
def find? (store : Store) (id : String) : Option Change :=
  store.changes.find? (·.id == id)

/-- The reviews of a change, of one kind and of one document if they are named. -/
def reviewsOf (store : Store) (id : String) (kind artifact : Option String := none) :
    List ReviewEntry :=
  store.reviews.filter fun entry =>
    entry.changeId == id && (kind.map (· == entry.kind)).getD true &&
      (artifact.map (· == entry.artifact)).getD true

/-- The last review of a change. -/
def latestReview? (store : Store) (id : String) (kind artifact : Option String := none) :
    Option ReviewEntry :=
  (store.reviewsOf id kind artifact).getLast?

/-- The last critique of a change's plan. -/
def latestCritique? (store : Store) (id : String) : Option ReviewEntry :=
  store.latestReview? id (some ReviewEntry.critique)

/-- The usage records of a change, oldest first. -/
def usageOf (store : Store) (id : String) : List UsageRecord :=
  (store.usage.filter (·.changeId == id)).map (·.usage)

/-- The execution log of a change, oldest first. -/
def logOf (store : Store) (id : String) : List LogEntry :=
  store.log.filter (·.changeId == id)

/-- The newest events, newest first; a negative limit is none. -/
def recentLog (store : Store) (id : String) (limit : Int) : List LogEntry :=
  let newest := (store.logOf id).reverse
  if limit < 0 then newest else newest.take limit.toNat

end Store

end PlanCycle
