/-
Module: PlanCycle.Number.DecimalText
Purpose: Decimal numbers as a text column keeps them.
Main exports:
  DecimalText, DecimalText.ofDecimal, DecimalText.toDecimal
-/
import PlanCycle.Number.Decimal

namespace PlanCycle.Number

/-- What stands in a text column of decimals: the text of one. -/
structure DecimalText where
  text : String
  isText : ∃ d : Decimal, text = d.text

namespace DecimalText

/-- What is put into the column for a number. -/
def ofDecimal (d : Decimal) : DecimalText := ⟨d.text, d, rfl⟩

instance : Inhabited DecimalText := ⟨ofDecimal .zero⟩

/-- The number that is read from the column.  Every text there can be read. -/
def toDecimal (column : DecimalText) : Decimal :=
  (Decimal.read? column.text).getD .zero

end DecimalText

end PlanCycle.Number
