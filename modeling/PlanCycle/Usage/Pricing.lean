/-
Module: PlanCycle.Usage.Pricing
Purpose: What agent calls cost.
Main exports:
  Pricing, Pricing.cost, PriceTable, PriceTable.find?, PriceTable.withOverrides
-/
import PlanCycle.Number.Decimal
import PlanCycle.Text.LowerCase
import PlanCycle.Text.Within

namespace PlanCycle

open Number Text

/-- Prices for a million tokens each. -/
structure Pricing where
  input : Decimal
  output : Decimal
deriving Repr, DecidableEq

/-- The cost of a call. -/
def Pricing.cost (pricing : Pricing) (tokensIn tokensOut : Int) : Decimal :=
  ((Decimal.millionths tokensIn).mul pricing.input).add
    ((Decimal.millionths tokensOut).mul pricing.output)

/-- Prices by a part of the model's name. -/
abbrev PriceTable := List (String × Pricing)

namespace PriceTable

/-- A price in hundredths. -/
def hundredths (n : Nat) : Decimal := ⟨false, n, -2⟩

/-- The prices that are known without configuration. -/
def builtIn : PriceTable :=
  [("gemini-2.5-flash", ⟨hundredths 10, hundredths 40⟩),
    ("gemini-2.5-pro", ⟨hundredths 125, hundredths 1000⟩),
    ("gemini-3-flash", ⟨hundredths 10, hundredths 40⟩),
    ("gemini-3-pro", ⟨hundredths 125, hundredths 1000⟩),
    ("gpt-5.2-codex", ⟨hundredths 200, hundredths 800⟩),
    ("claude-haiku", ⟨hundredths 80, hundredths 400⟩),
    ("claude-sonnet", ⟨hundredths 300, hundredths 1500⟩)]

/-- Sets the prices under a key; a key that is there already keeps its place. -/
def set (key : String) (pricing : Pricing) : PriceTable → PriceTable
  | [] => [(key, pricing)]
  | entry :: entries =>
    if entry.1 = key then (key, pricing) :: entries else entry :: set key pricing entries

/-- Adds overrides in order, under their keys in small letters.  One that does not have
exactly two prices has no effect. -/
def withOverrides (overrides : List (String × List Decimal)) (table : PriceTable) : PriceTable :=
  overrides.foldl
    (fun table entry =>
      match entry.2 with
      | [input, output] => set (String.ofList (lowerCase entry.1.toList)) ⟨input, output⟩ table
      | _ => table)
    table

/-- The first entry with the longest key. -/
def longest? : PriceTable → Option (String × Pricing)
  | [] => none
  | entry :: entries =>
    match longest? entries with
    | none => some entry
    | some other => if entry.1.length < other.1.length then some other else some entry

/-- The prices for a model: those under the longest key that occurs in its name. -/
def find? (table : PriceTable) (model : String) : Option Pricing :=
  let name := lowerCase model.toList
  (longest? (table.filter fun entry => occursIn entry.1.toList name)).map (·.2)

/-- The cost of a call, nothing for a model without prices. -/
def cost (table : PriceTable) (model : String) (tokensIn tokensOut : Int) : Decimal :=
  match table.find? model with
  | some pricing => pricing.cost tokensIn tokensOut
  | none => .zero

end PriceTable

end PlanCycle
