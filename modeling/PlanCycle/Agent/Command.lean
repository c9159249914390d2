/-
Module: PlanCycle.Agent.Command
Purpose: The command line of one call of an agent program.
Main exports:
  Provider.arguments?
-/
import PlanCycle.Agent.Basic
import PlanCycle.Number.Numeral

namespace PlanCycle

open Number

/-- The arguments of one call; the prompt is read from standard input.  Only gemini can go
on with a conversation of a given index. -/
def Provider.arguments? (provider : Provider) (model : String) (resume : Resume) :
    Option (List String) :=
  match provider, resume with
  | .gemini, .none => some ["-m", model, "--output-format", "stream-json"]
  | .gemini, .latest =>
    some ["-m", model, "--output-format", "stream-json", "--resume", "latest"]
  | .gemini, .index index =>
    some ["-m", model, "--output-format", "stream-json", "--resume", intText index]
  | .codex, .none => some ["exec", "--full-auto", "--json", "--model", model, "-"]
  | .codex, .latest =>
    some ["exec", "--full-auto", "--json", "--model", model, "resume", "--last", "-"]
  | .claude, .none => some ["-p", "--output-format", "json", "--model", model]
  | .claude, .latest => some ["-p", "--output-format", "json", "--model", model, "--continue"]
  | _, .index _ => none

/-- Arguments are missing exactly where an index meets a program that cannot resume by it. -/
theorem Provider.arguments?_eq_none_iff (provider : Provider) (model : String) (resume : Resume) :
    provider.arguments? model resume = none ↔ provider ≠ .gemini ∧ ∃ n, resume = .index n := by
  cases provider <;> cases resume <;> simp [Provider.arguments?]

end PlanCycle
