/-
Module: PlanCycle.Usage.Ledger
Purpose: Records of agent calls and their totals.
Main exports:
  TokenUsage, Timestamp, UsageRecord, UsageRecord.ofUsage, UsageTotals, summarize
-/
import PlanCycle.Usage.Pricing

namespace PlanCycle

open Number

/-- What one agent call used. -/
structure TokenUsage where
  inputTokens : Int
  outputTokens : Int
  model : String
  durationMs : Int := 0
  /-- What the clock shows when the call is put on record: microseconds of universal time. -/
  recordedAt : Int := 0
deriving Repr, Inhabited, DecidableEq

/-- When something was put on record. -/
structure Timestamp where
  /-- Microseconds of universal time. -/
  moment : Int
  /-- Whether it says that universal time is meant.  One that does is never equal to one that does
  not. -/
  isZoned : Bool := true
deriving Repr, Inhabited, DecidableEq

/-- One agent call on record. -/
structure UsageRecord where
  step : String
  model : String
  tokensIn : Int
  tokensOut : Int
  cost : Decimal
  duration : Int := 0
  timestamp : Timestamp := ⟨0, true⟩
deriving Repr, Inhabited, DecidableEq

namespace UsageRecord

/-- The record of a call.  Negative counts are recorded as zero. -/
def ofUsage (table : PriceTable) (step : String) (usage : TokenUsage) : UsageRecord :=
  let tokensIn := max usage.inputTokens 0
  let tokensOut := max usage.outputTokens 0
  { step, model := usage.model, tokensIn, tokensOut
    cost := table.cost usage.model tokensIn tokensOut, duration := usage.durationMs
    timestamp := ⟨usage.recordedAt, true⟩ }

/-- A record as it is read back: when it was made is known without a zone. -/
def asRead (record : UsageRecord) : UsageRecord :=
  { record with timestamp := { record.timestamp with isZoned := false } }

/-- The warning about negative counts, if there are any. -/
def warning? (step : String) (usage : TokenUsage) : Option String :=
  if usage.inputTokens < 0 ∨ usage.outputTokens < 0 then
    some ("Negative token counts for " ++ step ++ " (" ++ usage.model ++ "): in=" ++
      intText usage.inputTokens ++ " out=" ++ intText usage.outputTokens ++ "; recording as 0")
  else none

end UsageRecord

/-- Totals of several calls. -/
structure UsageTotals where
  calls : Nat
  tokensIn : Int
  tokensOut : Int
  cost : Decimal
deriving Repr, Inhabited, DecidableEq

/-- The sum of several counts. -/
def total (counts : List Int) : Int := counts.foldr (· + ·) 0

/-- The totals of a list of records. -/
def summarize (records : List UsageRecord) : UsageTotals :=
  { calls := records.length
    tokensIn := total (records.map (·.tokensIn))
    tokensOut := total (records.map (·.tokensOut))
    cost := records.foldl (fun sum record => sum.add record.cost) .zero }

end PlanCycle
