/-
Module: PlanCycle.Proofs.DecimalValue
Purpose: The values of decimal numbers: what sums, products and millionths are worth before they
  are rounded, and when rounding leaves them as they are.
Main exports:
  Decimal.value, Decimal.product, Decimal.sum, Decimal.millionth, Decimal.IsAmount,
  Decimal.IsAmount.round_eq_self
-/
import Mathlib.Algebra.Order.Field.Power
import Mathlib.Data.Rat.Floor
import Mathlib.Tactic.FieldSimp
import Mathlib.Tactic.Linarith
import Mathlib.Tactic.Positivity
import Mathlib.Tactic.Ring
import PlanCycle.Number.Decimal

namespace PlanCycle.Number

theorem cast_tenTo (power : Nat) : (tenTo power : ℚ) = 10 ^ power := by
  simp [tenTo]

namespace Decimal

/-! ### Values -/

/-- The value of a number without its sign. -/
def magnitude (d : Decimal) : ℚ :=
  d.coefficient * 10 ^ d.exponent

/-- The value of a number. -/
def value (d : Decimal) : ℚ :=
  if d.negative then -d.magnitude else d.magnitude

theorem magnitude_nonneg (d : Decimal) : 0 ≤ d.magnitude := by
  unfold magnitude
  positivity

theorem abs_value (d : Decimal) : |d.value| = d.magnitude := by
  unfold value
  split
  · rw [abs_neg, abs_of_nonneg d.magnitude_nonneg]
  · exact abs_of_nonneg d.magnitude_nonneg

theorem magnitude_of_nonneg {d : Decimal} (nonneg : 0 ≤ d.value) : d.magnitude = d.value := by
  rw [← abs_value, abs_of_nonneg nonneg]

@[simp] theorem value_zero : zero.value = 0 := by
  simp [value, magnitude, zero]

/-- Digits with the sign of a whole number are worth that number for their power of ten.  A zero may
have either sign. -/
theorem value_of_int {negative : Bool} {n exponent : Int}
    (sign : n ≠ 0 → negative = decide (n < 0)) :
    value ⟨negative, n.natAbs, exponent⟩ = n * 10 ^ exponent := by
  unfold value magnitude
  dsimp only
  rcases lt_trichotomy n 0 with below | rfl | above
  · rw [sign below.ne, if_pos (decide_eq_true below), Nat.cast_natAbs, abs_of_neg below]
    push_cast
    ring
  · simp
  · rw [sign above.ne', if_neg (by simpa using above.le), Nat.cast_natAbs, abs_of_pos above]

theorem value_nonneg_iff {d : Decimal} : 0 ≤ d.value ↔ d.negative = false ∨ d.coefficient = 0 := by
  have scale : (0 : ℚ) < 10 ^ d.exponent := by positivity
  unfold value
  cases d.negative with
  | false => simp [d.magnitude_nonneg]
  | true => simp [magnitude, mul_nonpos_iff, scale.le, scale.not_ge]

/-- Two numbers without a minus sign are the same if they have the same value and exponent. -/
theorem ext_value {a b : Decimal} (plus : a.negative = false) (plus' : b.negative = false)
    (exponent : a.exponent = b.exponent) (value : a.value = b.value) : a = b := by
  obtain ⟨negative, n, e⟩ := a
  obtain ⟨negative', m, f⟩ := b
  cases plus
  cases plus'
  cases exponent
  have scale : (10 : ℚ) ^ e ≠ 0 := by positivity
  have same : (n : ℚ) * 10 ^ e = m * 10 ^ e := value
  rw [mul_left_inj' scale, Nat.cast_inj] at same
  rw [same]

/-! ### Results before rounding -/

/-- The exact product. -/
def product (a b : Decimal) : Decimal :=
  ⟨a.negative != b.negative, a.coefficient * b.coefficient, a.exponent + b.exponent⟩

/-- The exact sum. -/
def sum (a b : Decimal) : Decimal :=
  let exponent := min a.exponent b.exponent
  let n := a.scaledTo exponent + b.scaledTo exponent
  let negative := if n = 0 then a.negative && b.negative && a.coefficient == 0 else n < 0
  ⟨negative, n.natAbs, exponent⟩

/-- The exact millionth of a whole number. -/
def millionth (n : Int) : Decimal :=
  if n = 0 then zero
  else
    let (places, coefficient) := dropZeros 6 n.natAbs
    ⟨n < 0, coefficient, -places⟩

theorem mul_eq (a b : Decimal) : a.mul b = (a.product b).round := rfl

theorem add_eq (a b : Decimal) : a.add b = (a.sum b).round := rfl

theorem value_product (a b : Decimal) : (a.product b).value = a.value * b.value := by
  have ten : (10 : ℚ) ≠ 0 := by norm_num
  have magnitudes : (a.product b).magnitude = a.magnitude * b.magnitude := by
    simp only [magnitude, product, Nat.cast_mul, zpow_add₀ ten]
    ring
  have sign : (a.product b).negative = (a.negative != b.negative) := rfl
  unfold value
  rw [magnitudes, sign]
  cases a.negative <;> cases b.negative <;> simp

/-- A number is worth its digits for any smaller power of ten. -/
theorem value_scaledTo {d : Decimal} {exponent : Int} (le : exponent ≤ d.exponent) :
    (d.scaledTo exponent : ℚ) * 10 ^ exponent = d.value := by
  have ten : (10 : ℚ) ≠ 0 := by norm_num
  have scale : (10 : ℚ) ^ (d.exponent - exponent).toNat * 10 ^ exponent = 10 ^ d.exponent := by
    rw [← zpow_natCast, ← zpow_add₀ ten, Int.toNat_of_nonneg (by omega), sub_add_cancel]
  have magnitudes : ((d.coefficient * tenTo (d.exponent - exponent).toNat : Nat) : ℚ) *
      10 ^ exponent = d.magnitude := by
    rw [Nat.cast_mul, cast_tenTo, mul_assoc, scale, magnitude]
  unfold scaledTo value
  split
  · rw [Int.cast_neg, Int.cast_natCast, neg_mul, magnitudes]
  · rw [Int.cast_natCast, magnitudes]

theorem value_sum (a b : Decimal) : (a.sum b).value = a.value + b.value := by
  have one := a.value_scaledTo (min_le_left a.exponent b.exponent)
  have two := b.value_scaledTo (min_le_right a.exponent b.exponent)
  rw [← one, ← two, ← add_mul, ← Int.cast_add]
  exact value_of_int fun filled => by rw [if_neg filled]

theorem dropZeros_spec (places n : Nat) :
    (dropZeros places n).1 ≤ places ∧
      (dropZeros places n).2 * 10 ^ (places - (dropZeros places n).1) = n := by
  induction places generalizing n with
  | zero => simp [dropZeros]
  | succ places ih =>
      unfold dropZeros
      split
      · rename_i zero
        obtain ⟨le, same⟩ := ih (n / 10)
        refine ⟨by omega, ?_⟩
        rw [Nat.succ_sub le, pow_succ, ← mul_assoc, same]
        omega
      · simp

theorem millionths_eq (n : Int) : millionths n = (millionth n).round := by
  unfold millionths millionth
  split
  · rfl
  · rfl

theorem value_millionth (n : Int) : (millionth n).value = n / 10 ^ 6 := by
  unfold millionth
  split
  · rename_i zero
    simp [zero]
  · obtain ⟨le, same⟩ := dropZeros_spec 6 n.natAbs
    have digits : ((dropZeros 6 n.natAbs).2 : ℚ) * 10 ^ (6 - (dropZeros 6 n.natAbs).1) =
        n.natAbs := by exact_mod_cast same
    have scale : (10 : ℚ) ^ (6 - (dropZeros 6 n.natAbs).1) * 10 ^ (-6 : Int) =
        10 ^ (-((dropZeros 6 n.natAbs).1 : Int)) := by
      rw [← zpow_natCast, ← zpow_add₀ (by norm_num)]
      congr 1
      omega
    have magnitudes : ((dropZeros 6 n.natAbs).2 : ℚ) * 10 ^ (-((dropZeros 6 n.natAbs).1 : Int)) =
        n.natAbs * 10 ^ (-6 : Int) := by rw [← scale, ← mul_assoc, digits]
    calc value ⟨decide (n < 0), (dropZeros 6 n.natAbs).2, -((dropZeros 6 n.natAbs).1 : Int)⟩
        = value ⟨decide (n < 0), n.natAbs, -6⟩ := by simp only [value, magnitude, magnitudes]
      _ = n * 10 ^ (-6 : Int) := value_of_int fun _ => rfl
      _ = n / 10 ^ 6 := by rw [zpow_neg, div_eq_mul_inv]; rfl

/-! ### Numbers that are not rounded -/

theorem digitCount_pos (n : Nat) : 0 < digitCount n := by
  unfold digitCount
  rw [Nat.toString_eq_repr, ← String.length_toList, Nat.toList_repr]
  exact Nat.length_toDigits_pos

theorem digitCount_le_iff {n count : Nat} (some_digits : 0 < count) :
    digitCount n ≤ count ↔ n < 10 ^ count := by
  unfold digitCount
  rw [Nat.toString_eq_repr, ← String.length_toList, Nat.toList_repr]
  exact Nat.length_toDigits_le_iff (by decide) some_digits

theorem round_eq_self {d : Decimal} (short : d.coefficient < 10 ^ precision)
    (above : leastExponent ≤ d.exponent) : d.round = d := by
  have few : digitCount d.coefficient ≤ precision := (digitCount_le_iff (by decide)).mpr short
  have none :
      max (digitCount d.coefficient - precision) (leastExponent - d.exponent).toNat = 0 := by omega
  unfold round
  rw [none, if_pos rfl]

/-- Rounding may cut places off but adds none. -/
theorem exponent_le_round (d : Decimal) : d.exponent ≤ d.round.exponent := by
  unfold round
  dsimp only
  split
  · exact le_rfl
  · split
    · dsimp only
      omega
    · dsimp only
      omega

@[simp] theorem negative_round (d : Decimal) : d.round.negative = d.negative := by
  unfold round
  dsimp only
  split
  · rfl
  · split <;> rfl

theorem coefficient_round_of_zero {d : Decimal} (zero : d.coefficient = 0) :
    d.round.coefficient = 0 := by
  have none (den : Nat) : roundQuotient 0 den = 0 := by simp [roundQuotient]
  have positive : 0 ≠ tenTo precision := (tenTo_pos precision).ne
  unfold round
  dsimp only
  rw [zero, none, if_neg positive]
  split
  · exact zero
  · rfl

theorem round_nonneg {d : Decimal} (nonneg : 0 ≤ d.value) : 0 ≤ d.round.value := by
  rw [value_nonneg_iff, negative_round]
  exact (value_nonneg_iff.mp nonneg).imp_right coefficient_round_of_zero

/-- Whether a number is an amount that is not below zero, with at most so many decimal places. -/
structure IsAmount (places : Nat) (d : Decimal) : Prop where
  nonneg : 0 ≤ d.value
  places_le : -(places : Int) ≤ d.exponent

namespace IsAmount

variable {a b d : Decimal} {places more : Nat}

/-- An amount is not rounded if all its places fit into the precision. -/
theorem round_eq_self (amount : d.IsAmount places) (few : places ≤ precision)
    (small : d.value < 10 ^ (precision - places)) : d.round = d := by
  refine Decimal.round_eq_self ?_ ?_
  · have scale : (1 : ℚ) ≤ 10 ^ (d.exponent + places) :=
      one_le_zpow₀ (by norm_num) (by have := amount.places_le; omega)
    have shifted : d.magnitude * 10 ^ places = d.coefficient * 10 ^ (d.exponent + places) := by
      rw [magnitude, mul_assoc, zpow_add₀ (by norm_num), zpow_natCast]
    have bound : (d.coefficient : ℚ) < 10 ^ precision := by
      calc (d.coefficient : ℚ)
          ≤ d.coefficient * 10 ^ (d.exponent + places) :=
            le_mul_of_one_le_right (Nat.cast_nonneg _) scale
        _ = d.value * 10 ^ places := by rw [← shifted, magnitude_of_nonneg amount.nonneg]
        _ < 10 ^ (precision - places) * 10 ^ places :=
            mul_lt_mul_of_pos_right small (by positivity)
        _ = 10 ^ precision := by rw [← pow_add, Nat.sub_add_cancel few]
    exact_mod_cast bound
  · have low := amount.places_le
    have least : leastExponent ≤ -(precision : Int) := by decide
    omega

theorem round (amount : d.IsAmount places) : d.round.IsAmount places :=
  ⟨round_nonneg amount.nonneg, amount.places_le.trans d.exponent_le_round⟩

theorem zero : Decimal.zero.IsAmount places :=
  ⟨by simp, by simp [Decimal.zero]⟩

theorem product (left : a.IsAmount places) (right : b.IsAmount more) :
    (a.product b).IsAmount (places + more) := by
  refine ⟨?_, ?_⟩
  · rw [value_product]
    exact mul_nonneg left.nonneg right.nonneg
  · have := left.places_le
    have := right.places_le
    show -((places + more : Nat) : Int) ≤ a.exponent + b.exponent
    push_cast
    omega

theorem sum (left : a.IsAmount places) (right : b.IsAmount places) :
    (a.sum b).IsAmount places := by
  refine ⟨?_, ?_⟩
  · rw [value_sum]
    exact add_nonneg left.nonneg right.nonneg
  · exact le_min left.places_le right.places_le

theorem millionth {n : Int} (nonneg : 0 ≤ n) : (millionth n).IsAmount 6 := by
  refine ⟨?_, ?_⟩
  · rw [value_millionth]
    positivity
  · unfold Decimal.millionth
    split
    · decide
    · have le := (dropZeros_spec 6 n.natAbs).1
      dsimp only
      omega

end IsAmount

end Decimal

end PlanCycle.Number
