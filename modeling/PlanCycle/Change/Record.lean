/-
Module: PlanCycle.Change.Record
Purpose: The lifecycle record of a change and its moves.
Main exports:
  Change, Change.moveTo, Change.applyVerdict, Change.reenter
-/
import PlanCycle.Failure

namespace PlanCycle

/-- What is kept about a change. -/
structure Change where
  id : String
  description : String := ""
  phase : Phase := .proposed
  /-- How often the plan was revised. -/
  iteration : Int := 0
  /-- The conversation in which the plan was written. -/
  sessionId : Option String := none
  lastAction : Option String := none
deriving Repr, Inhabited, DecidableEq

namespace Change

/-- The change in another phase, if it may move there. -/
def moveTo (change : Change) (target : Phase) : Except Failure Change :=
  if target ∈ change.phase.next then .ok { change with phase := target }
  else .error (.transition change.phase target)

/-- The change after a critique.  Only a proposed change can be judged. -/
def applyVerdict (change : Change) (verdict : Verdict) : Except Failure Change :=
  match Phase.ofVerdict? verdict with
  | none => .error .unknownVerdict
  | some target =>
    if change.phase = .proposed then change.moveTo target
    else .error (.transition change.phase target)

/-- The change proposed again after it was rejected, as if it were new. -/
def reenter (change : Change) : Except Failure Change :=
  if change.phase = .rejected then
    { change with iteration := 0, sessionId := none }.moveTo .proposed
  else .error (.transition change.phase .proposed)

theorem phase_of_moveTo {change moved : Change} {target : Phase}
    (done : change.moveTo target = .ok moved) : moved.phase = target := by
  unfold moveTo at done
  split at done
  · cases done
    rfl
  · cases done

end Change

end PlanCycle
