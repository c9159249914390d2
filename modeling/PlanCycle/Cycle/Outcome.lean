/-
Module: PlanCycle.Cycle.Outcome
Purpose: How a planning cycle ends, and how much it may try.
Main exports:
  CycleOutcome, CycleOutcome.describe, CyclePolicy
-/
import PlanCycle.Failure

namespace PlanCycle

open Number

/-- How a planning cycle ends. -/
inductive CycleOutcome where
  | approved
  | rejected
  /-- No further critique is allowed; so many issues are open. -/
  | exhausted (issues : Nat)
  | error (kind : FailureKind) (step message : String)
deriving Repr, Inhabited, DecidableEq

namespace CycleOutcome

/-- The word for an outcome. -/
def word : CycleOutcome → String
  | .approved => "approved"
  | .rejected => "rejected"
  | .exhausted _ => "exhausted"
  | .error .. => "error"

/-- Whether the plan was approved. -/
def isOk (outcome : CycleOutcome) : Bool :=
  outcome = .approved

/-- An outcome in one line. -/
def describe : CycleOutcome → String
  | .exhausted issues => "exhausted with " ++ toString issues ++ " open issue(s)"
  | .error kind step message => kind.word ++ " error in " ++ step ++ ": " ++ message
  | outcome => outcome.word

/-- The outcome of a step that failed.  Repeated failures of a call name that call. -/
def ofFailure (step : String) (failure : Failure) : CycleOutcome :=
  match failure with
  | .retriesExhausted call _ _ => .error failure.kind call failure.message
  | _ => .error failure.kind step failure.message

end CycleOutcome

/-- How much a cycle may try. -/
structure CyclePolicy where
  /-- How often a call is tried again. -/
  maxRetries : Int := 2
  /-- In seconds. -/
  retryDelay : Binary64 := .ofInt 5
  /-- How many critiques one round has. -/
  planningIterations : Int := 3
  /-- Whether an author looks at its documents again, if positive. -/
  selfReviewIterations : Int := 1
deriving Repr, Inhabited

namespace CyclePolicy

/-- The configured policy. -/
def ofSettings (settings : Settings) : CyclePolicy where
  maxRetries := settings.maxRetries
  retryDelay := settings.retryDelay
  planningIterations := settings.planningIterations
  selfReviewIterations := settings.selfReviewIterations

/-- How often a call is tried altogether. -/
def attempts (policy : CyclePolicy) : Nat :=
  (policy.maxRetries + 1).toNat

end CyclePolicy

end PlanCycle
