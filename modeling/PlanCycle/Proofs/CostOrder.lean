/-
Module: PlanCycle.Proofs.CostOrder
Purpose: Rounding keeps the order of numbers, so more tokens never cost less.
Main exports:
  nearestEven, roundQuotient_eq_nearestEven, Decimal.rounded, Decimal.magnitude_round,
  Decimal.rounded_mono, Pricing.cost_grows_with_tokens
-/
import Mathlib.Data.Int.Log
import PlanCycle.Proofs.DecimalValue
import PlanCycle.Usage.Ledger

namespace PlanCycle

namespace Number

/-! ### The nearest whole number -/

/-- The nearest whole number, a tie to the even one. -/
def nearestEven (x : ℚ) : ℤ :=
  if Int.fract x < 1 / 2 then ⌊x⌋
  else if 1 / 2 < Int.fract x then ⌊x⌋ + 1
  else if ⌊x⌋ % 2 = 0 then ⌊x⌋ else ⌊x⌋ + 1

@[simp] theorem nearestEven_intCast (n : ℤ) : nearestEven n = n := by
  simp [nearestEven]

theorem floor_le_nearestEven (x : ℚ) : ⌊x⌋ ≤ nearestEven x := by
  unfold nearestEven
  split_ifs <;> omega

theorem nearestEven_le_floor_add_one (x : ℚ) : nearestEven x ≤ ⌊x⌋ + 1 := by
  unfold nearestEven
  split_ifs <;> omega

/-- Quotients are rounded to the nearest whole number. -/
theorem roundQuotient_eq_nearestEven {num den : Nat} (positive : 0 < den) :
    (roundQuotient num den : ℤ) = nearestEven (num / den) := by
  have floor : ⌊(num : ℚ) / den⌋ = ((num / den : Nat) : ℤ) := by
    rw [Rat.floor_natCast_div_natCast]
    rfl
  have fract : Int.fract ((num : ℚ) / den) = ((num % den : Nat) : ℚ) / den :=
    Int.fract_div_natCast_eq_div_natCast_mod
  have scale : (0 : ℚ) < den := by exact_mod_cast positive
  have below : Int.fract ((num : ℚ) / den) < 1 / 2 ↔ 2 * (num % den) < den := by
    rw [fract, div_lt_div_iff₀ scale (by norm_num)]
    norm_cast
    omega
  have above : 1 / 2 < Int.fract ((num : ℚ) / den) ↔ den < 2 * (num % den) := by
    rw [fract, div_lt_div_iff₀ (by norm_num) scale]
    norm_cast
    omega
  unfold roundQuotient nearestEven
  simp only [below, above, floor]
  split_ifs <;> first | rfl | omega

theorem nearestEven_mono {x y : ℚ} (le : x ≤ y) : nearestEven x ≤ nearestEven y := by
  rcases (Int.floor_le_floor le).lt_or_eq with less | same
  · calc nearestEven x ≤ ⌊x⌋ + 1 := nearestEven_le_floor_add_one x
      _ ≤ ⌊y⌋ := less
      _ ≤ nearestEven y := floor_le_nearestEven y
  · -- Between the same two whole numbers the larger part decides.
    have parts : Int.fract x ≤ Int.fract y := by
      have one := Int.floor_add_fract x
      have two := Int.floor_add_fract y
      rw [same] at one
      linarith
    unfold nearestEven
    rw [same]
    split_ifs <;> first | omega | (exfalso; linarith)

namespace Decimal

/-! ### The nearest number of the precision -/

/-- The exponent of the last digit that a value keeps. -/
def lastPlace (x : ℚ) : ℤ :=
  max (Int.log 10 x + 1 - precision) leastExponent

/-- A value rounded to the multiples of the power of ten of its last digit. -/
def rounded (x : ℚ) : ℚ :=
  nearestEven (x / 10 ^ lastPlace x) * 10 ^ lastPlace x

@[simp] theorem rounded_zero : rounded 0 = 0 := by
  have none := nearestEven_intCast 0
  rw [Int.cast_zero] at none
  simp [rounded, none]

/-- A multiple of a power of ten is one of every smaller power too. -/
theorem exists_multiple (n : ℤ) {exponent place : ℤ} (le : place ≤ exponent) :
    ∃ m : ℤ, (n : ℚ) * 10 ^ exponent = m * 10 ^ place := by
  refine ⟨n * 10 ^ (exponent - place).toNat, ?_⟩
  push_cast
  rw [mul_assoc, ← zpow_natCast, ← zpow_add₀ (by norm_num), Int.toNat_of_nonneg (by omega),
    sub_add_cancel]

/-- Nothing is rounded past a multiple of a power of ten that is not below its last digit. -/
theorem rounded_le {x : ℚ} {n exponent : ℤ} (kept : lastPlace x ≤ exponent)
    (le : x ≤ n * 10 ^ exponent) : rounded x ≤ n * 10 ^ exponent := by
  obtain ⟨m, same⟩ := exists_multiple n kept
  have scale : (0 : ℚ) < 10 ^ lastPlace x := by positivity
  rw [same] at le ⊢
  have near := nearestEven_mono ((div_le_iff₀ scale).mpr le)
  rw [nearestEven_intCast] at near
  exact mul_le_mul_of_nonneg_right (by exact_mod_cast near) scale.le

theorem le_rounded {x : ℚ} {n exponent : ℤ} (kept : lastPlace x ≤ exponent)
    (le : n * 10 ^ exponent ≤ x) : n * 10 ^ exponent ≤ rounded x := by
  obtain ⟨m, same⟩ := exists_multiple n kept
  have scale : (0 : ℚ) < 10 ^ lastPlace x := by positivity
  rw [same] at le ⊢
  have near := nearestEven_mono ((le_div_iff₀ scale).mpr le)
  rw [nearestEven_intCast] at near
  exact mul_le_mul_of_nonneg_right (by exact_mod_cast near) scale.le

theorem rounded_of_multiple {x : ℚ} {n exponent : ℤ} (multiple : x = n * 10 ^ exponent)
    (kept : lastPlace x ≤ exponent) : rounded x = x := by
  refine le_antisymm ?_ ?_
  · exact (rounded_le kept multiple.le).trans_eq multiple.symm
  · exact multiple.le.trans (le_rounded kept multiple.ge)

theorem rounded_nonneg {x : ℚ} (nonneg : 0 ≤ x) : 0 ≤ rounded x := by
  have bound := le_rounded (x := x) (n := 0) le_rfl (by simpa using nonneg)
  simpa using bound

/-- Rounding keeps the order.  Where the last place of the smaller value is a lower one, the power
of ten at which the larger one begins lies between the two. -/
theorem rounded_mono {x y : ℚ} (nonneg : 0 ≤ x) (le : x ≤ y) : rounded x ≤ rounded y := by
  rcases nonneg.eq_or_lt with rfl | positive
  · rw [rounded_zero]
    exact rounded_nonneg le
  have logs : Int.log 10 x ≤ Int.log 10 y := Int.log_mono_right positive le
  have places : lastPlace x ≤ lastPlace y := by
    unfold lastPlace
    omega
  rcases places.eq_or_lt with same | lower
  · have scale : (0 : ℚ) < 10 ^ lastPlace y := by positivity
    have near := nearestEven_mono (div_le_div_of_nonneg_right le scale.le)
    unfold rounded
    rw [same]
    exact mul_le_mul_of_nonneg_right (by exact_mod_cast near) scale.le
  · have shorter : Int.log 10 x < Int.log 10 y := by
      unfold lastPlace at lower
      omega
    have last : lastPlace y ≤ Int.log 10 y := by
      have digits : (1 : ℤ) ≤ precision := by decide
      unfold lastPlace at lower ⊢
      omega
    have below : x < ((10 : Nat) : ℚ) ^ Int.log 10 y :=
      (Int.lt_zpow_iff_log_lt (by decide) positive).mpr shorter
    have above : ((10 : Nat) : ℚ) ^ Int.log 10 y ≤ y :=
      Int.zpow_log_le_self (by decide) (positive.trans_le le)
    rw [Nat.cast_ofNat, ← one_mul ((10 : ℚ) ^ Int.log 10 y), ← Int.cast_one] at below above
    exact (rounded_le (places.trans last) below.le).trans (le_rounded last above)

/-! ### Values of numbers -/

/-- A number that is not zero has no fewer digits than are counted. -/
theorem pow_digitCount_le {n : Nat} (filled : 0 < n) : 10 ^ (digitCount n - 1) ≤ n := by
  rcases Nat.eq_zero_or_pos (digitCount n - 1) with none | several
  · rw [none]
    exact filled
  · by_contra smaller
    have fewer := (digitCount_le_iff several).mpr (not_le.mp smaller)
    omega

/-- The place of the first digit of a number. -/
theorem log_magnitude {d : Decimal} (filled : 0 < d.coefficient) :
    Int.log 10 d.magnitude = digitCount d.coefficient - 1 + d.exponent := by
  have counted := digitCount_pos d.coefficient
  have above : d.coefficient < 10 ^ digitCount d.coefficient :=
    (digitCount_le_iff counted).mp le_rfl
  have below := pow_digitCount_le filled
  have positive : 0 < d.magnitude := by
    have : (0 : ℚ) < d.coefficient := by exact_mod_cast filled
    unfold magnitude
    positivity
  have scale : (0 : ℚ) < 10 ^ d.exponent := by positivity
  have power (count : Nat) :
      (10 : ℚ) ^ ((count : ℤ) + d.exponent) = 10 ^ count * 10 ^ d.exponent := by
    rw [zpow_add₀ (by norm_num), zpow_natCast]
  refine le_antisymm ?_ ?_
  · have less : d.magnitude < ((10 : Nat) : ℚ) ^ ((digitCount d.coefficient : ℤ) + d.exponent) := by
      rw [Nat.cast_ofNat, power]
      exact mul_lt_mul_of_pos_right (by exact_mod_cast above) scale
    have := (Int.lt_zpow_iff_log_lt (by decide) positive).mp less
    omega
  · refine (Int.zpow_le_iff_le_log (by decide) positive).mp ?_
    rw [Nat.cast_ofNat, show (digitCount d.coefficient : ℤ) - 1 + d.exponent =
      ((digitCount d.coefficient - 1 : Nat) : ℤ) + d.exponent by omega, power]
    exact mul_le_mul_of_nonneg_right (by exact_mod_cast below) scale.le

/-- Rounding a number rounds its value, however the number is written. -/
theorem magnitude_round (d : Decimal) : d.round.magnitude = rounded d.magnitude := by
  rcases Nat.eq_zero_or_pos d.coefficient with zero | filled
  · simp [magnitude, zero, coefficient_round_of_zero]
  · have last : lastPlace d.magnitude = d.exponent +
        max ((digitCount d.coefficient : ℤ) - precision) (leastExponent - d.exponent) := by
      rw [lastPlace, log_magnitude filled]
      omega
    unfold round
    dsimp only
    generalize cut : max (digitCount d.coefficient - precision)
      (leastExponent - d.exponent).toNat = excess
    split
    · rename_i none
      have multiple : d.magnitude = (d.coefficient : ℤ) * 10 ^ d.exponent := rfl
      exact (rounded_of_multiple multiple (by omega)).symm
    · rename_i some_digits
      have place : lastPlace d.magnitude = d.exponent + excess := by omega
      have quotient : d.magnitude / 10 ^ lastPlace d.magnitude =
          (d.coefficient : ℚ) / (tenTo excess : Nat) := by
        rw [place, zpow_add₀ (by norm_num), zpow_natCast, cast_tenTo, magnitude,
          mul_comm (d.coefficient : ℚ), mul_div_mul_left _ _ (by positivity)]
      have kept : rounded d.magnitude =
          roundQuotient d.coefficient (tenTo excess) * 10 ^ (d.exponent + excess) := by
        rw [rounded, quotient, ← roundQuotient_eq_nearestEven (tenTo_pos excess), place,
          Int.cast_natCast]
      split
      · rename_i full
        rw [kept, full, cast_tenTo]
        show ((tenTo (precision - 1) : Nat) : ℚ) * 10 ^ (d.exponent + excess + 1) = _
        rw [cast_tenTo, zpow_add_one₀ (by norm_num)]
        norm_num [precision]
        ring
      · exact kept.symm

/-- A number that is not below zero is rounded to its value rounded. -/
theorem value_round {d : Decimal} (nonneg : 0 ≤ d.value) : d.round.value = rounded d.value := by
  rw [← magnitude_of_nonneg (round_nonneg nonneg), magnitude_round, magnitude_of_nonneg nonneg]

/-- Rounding keeps the order of numbers that are not below zero. -/
theorem round_mono {a b : Decimal} (nonneg : 0 ≤ a.value) (le : a.value ≤ b.value) :
    0 ≤ a.round.value ∧ a.round.value ≤ b.round.value := by
  refine ⟨round_nonneg nonneg, ?_⟩
  rw [value_round nonneg, value_round (nonneg.trans le)]
  exact rounded_mono nonneg le

theorem millionths_mono {n m : Int} (nonneg : 0 ≤ n) (le : n ≤ m) :
    0 ≤ (millionths n).value ∧ (millionths n).value ≤ (millionths m).value := by
  have values : (millionth n).value ≤ (millionth m).value := by
    rw [value_millionth, value_millionth]
    exact div_le_div_of_nonneg_right (by exact_mod_cast le) (by norm_num)
  rw [millionths_eq, millionths_eq]
  exact round_mono (IsAmount.millionth nonneg).nonneg values

theorem mul_mono {a b price : Decimal} (nonneg : 0 ≤ a.value) (le : a.value ≤ b.value)
    (free : 0 ≤ price.value) :
    0 ≤ (a.mul price).value ∧ (a.mul price).value ≤ (b.mul price).value := by
  rw [mul_eq, mul_eq]
  refine round_mono ?_ ?_
  · rw [value_product]
    exact mul_nonneg nonneg free
  · rw [value_product, value_product]
    exact mul_le_mul_of_nonneg_right le free

theorem add_mono {a b c d : Decimal} (nonneg : 0 ≤ a.value) (le : a.value ≤ b.value)
    (nonneg' : 0 ≤ c.value) (le' : c.value ≤ d.value) :
    0 ≤ (a.add c).value ∧ (a.add c).value ≤ (b.add d).value := by
  rw [add_eq, add_eq]
  refine round_mono ?_ ?_
  · rw [value_sum]
    exact add_nonneg nonneg nonneg'
  · rw [value_sum, value_sum]
    exact add_le_add le le'

end Decimal

end Number

open Number

/-- Whether prices are not below zero. -/
structure Pricing.IsNonneg (pricing : Pricing) : Prop where
  input : 0 ≤ pricing.input.value
  output : 0 ≤ pricing.output.value

theorem Pricing.cost_mono {pricing : Pricing} (free : pricing.IsNonneg)
    {tokensIn moreIn tokensOut moreOut : Int} (countIn : 0 ≤ tokensIn) (leIn : tokensIn ≤ moreIn)
    (countOut : 0 ≤ tokensOut) (leOut : tokensOut ≤ moreOut) :
    0 ≤ (pricing.cost tokensIn tokensOut).value ∧
      (pricing.cost tokensIn tokensOut).value ≤ (pricing.cost moreIn moreOut).value := by
  obtain ⟨millionsIn, moreMillionsIn⟩ := Decimal.millionths_mono countIn leIn
  obtain ⟨millionsOut, moreMillionsOut⟩ := Decimal.millionths_mono countOut leOut
  obtain ⟨input, moreInput⟩ := Decimal.mul_mono millionsIn moreMillionsIn free.input
  obtain ⟨output, moreOutput⟩ := Decimal.mul_mono millionsOut moreMillionsOut free.output
  exact Decimal.add_mono input moreInput output moreOutput

/-- **More tokens never cost less.**  At prices that are not below zero a cost is not below zero and
grows with the counts, however large they are and whatever is rounded on the way.  Therefore a call
that used more tokens of a model at these prices is never recorded at a lower cost. -/
theorem Pricing.cost_grows_with_tokens (pricing : Pricing) (free : pricing.IsNonneg)
    (tokensIn moreIn tokensOut moreOut : Int) (countIn : 0 ≤ tokensIn ∧ tokensIn ≤ moreIn)
    (countOut : 0 ≤ tokensOut ∧ tokensOut ≤ moreOut) :
    0 ≤ (pricing.cost tokensIn tokensOut).value ∧
      (pricing.cost tokensIn tokensOut).value ≤ (pricing.cost moreIn moreOut).value ∧
      ∀ (table : PriceTable) (step other : String) (usage more : TokenUsage),
        table.find? usage.model = some pricing → more.model = usage.model →
        usage.inputTokens ≤ more.inputTokens → usage.outputTokens ≤ more.outputTokens →
          (UsageRecord.ofUsage table step usage).cost.value ≤
            (UsageRecord.ofUsage table other more).cost.value := by
  obtain ⟨nonneg, le⟩ := cost_mono free countIn.1 countIn.2 countOut.1 countOut.2
  refine ⟨nonneg, le, fun table step other usage more priced sameModel leIn leOut => ?_⟩
  have cost (step : String) {used : TokenUsage} (found : table.find? used.model = some pricing) :
      (UsageRecord.ofUsage table step used).cost =
        pricing.cost (max used.inputTokens 0) (max used.outputTokens 0) := by
    simp only [UsageRecord.ofUsage, PriceTable.cost, found]
  rw [cost step priced, cost other (sameModel ▸ priced)]
  exact (cost_mono free (le_max_right _ _) (max_le_max_right 0 leIn) (le_max_right _ _)
    (max_le_max_right 0 leOut)).2

/-- One token less than a power of ten is rounded up to it, and not past it. -/
theorem Pricing.cost_at_power_of_ten :
    let pricing : Pricing := ⟨⟨false, 1, 0⟩, ⟨true, 0, -2⟩⟩
    pricing.IsNonneg ∧
      pricing.cost (10 ^ 35 - 1) 7 = ⟨false, 10 ^ 27, 2⟩ ∧
      pricing.cost (10 ^ 35) 7 = ⟨false, 10 ^ 27, 2⟩ ∧
      (pricing.cost (10 ^ 35 - 1) 7).value ≤ (pricing.cost (10 ^ 35) 7).value := by
  intro pricing
  have free : pricing.IsNonneg :=
    ⟨Decimal.value_nonneg_iff.mpr (.inl rfl), Decimal.value_nonneg_iff.mpr (.inr rfl)⟩
  refine ⟨free, by decide +kernel, by decide +kernel, ?_⟩
  exact (pricing.cost_grows_with_tokens free _ _ _ _ (by norm_num) (by norm_num)).2.1

end PlanCycle
