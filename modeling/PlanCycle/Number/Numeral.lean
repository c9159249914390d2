/-
Module: PlanCycle.Number.Numeral
Purpose: Whole numbers as runs of decimal digits.
Main exports:
  ofDigits, digitsOf, intText, hexValue?, numeralLimit
-/

namespace PlanCycle.Number

/-- The number that a run of ASCII digits stands for. -/
def ofDigits (digits : List Char) : Nat :=
  digits.foldl (fun value c => 10 * value + (c.toNat - 48)) 0

/-- The decimal digits of a number, without leading zeros. -/
def digitsOf (n : Nat) : List Char :=
  (toString n).toList

/-- A whole number with its sign, if it is negative. -/
def intText (n : Int) : String :=
  if n < 0 then "-" ++ toString n.natAbs else toString n.natAbs

/-- The value of a hexadecimal digit. -/
def hexValue? (c : Char) : Option Nat :=
  if c.isDigit then some (c.toNat - 48)
  else if 'a' ≤ c ∧ c ≤ 'f' then some (c.toNat - 87)
  else if 'A' ≤ c ∧ c ≤ 'F' then some (c.toNat - 55)
  else none

/-- A numeral of more digits than this is refused. -/
def numeralLimit : Nat := 4300

end PlanCycle.Number
