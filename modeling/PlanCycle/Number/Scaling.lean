/-
Module: PlanCycle.Number.Scaling
Purpose: Powers of two and of ten, and quotients rounded to whole numbers.
Main exports:
  twoTo, tenTo, roundQuotient
-/

namespace PlanCycle.Number

/-- Two to a power. -/
def twoTo (power : Nat) : Nat := Nat.pow 2 power

/-- Ten to a power. -/
def tenTo (power : Nat) : Nat := Nat.pow 10 power

theorem tenTo_succ (power : Nat) : tenTo (power + 1) = tenTo power * 10 := rfl

theorem tenTo_pos (power : Nat) : 0 < tenTo power := Nat.pow_pos (by decide)

theorem tenTo_mono {power other : Nat} (le : power ≤ other) : tenTo power ≤ tenTo other :=
  Nat.pow_le_pow_right (by decide) le

/-- The quotient by a positive number, rounded to the nearest whole number, a tie to the even
one. -/
def roundQuotient (num den : Nat) : Nat :=
  let q := num / den
  let twice := 2 * (num % den)
  if twice < den then q
  else if den < twice then q + 1
  else if q % 2 = 0 then q else q + 1

end PlanCycle.Number
