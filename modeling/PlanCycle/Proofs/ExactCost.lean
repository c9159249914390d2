/-
Module: PlanCycle.Proofs.ExactCost
Purpose: The cost of a call is exact for counts and prices of ordinary size: no step rounds.
Main exports:
  Pricing.IsExactAt, Pricing.cost_is_exact
-/
import PlanCycle.Proofs.DecimalValue
import PlanCycle.Usage.Pricing

namespace PlanCycle

open Number Decimal

/-- Whether no step on the way to the cost of a call rounds: neither the millionths of the counts,
nor what they cost each, nor the sum of the two. -/
structure Pricing.IsExactAt (pricing : Pricing) (tokensIn tokensOut : Int) : Prop where
  millionsIn : (millionths tokensIn).value = tokensIn / 10 ^ 6
  millionsOut : (millionths tokensOut).value = tokensOut / 10 ^ 6
  costIn : ((millionths tokensIn).mul pricing.input).value =
    (millionths tokensIn).value * pricing.input.value
  costOut : ((millionths tokensOut).mul pricing.output).value =
    (millionths tokensOut).value * pricing.output.value
  cost : (pricing.cost tokensIn tokensOut).value =
    ((millionths tokensIn).mul pricing.input).value +
      ((millionths tokensOut).mul pricing.output).value

namespace Number.Decimal

/-- The millionth of a count below a trillion needs six places at most. -/
theorem millionths_exact {tokens : Int} (nonneg : 0 ≤ tokens) (small : tokens < 10 ^ 12) :
    millionths tokens = millionth tokens := by
  rw [millionths_eq]
  refine (IsAmount.millionth nonneg).round_eq_self (by decide) ?_
  have bound : (tokens : ℚ) < 10 ^ 12 := by exact_mod_cast small
  rw [value_millionth, div_lt_iff₀ (by norm_num)]
  exact bound.trans (by norm_num [precision])

/-- What such a count costs at a price below a million, written with at most six places. -/
theorem cost_of_count_exact {tokens : Int} {price : Decimal} (nonneg : 0 ≤ tokens)
    (small : tokens < 10 ^ 12) (amount : price.IsAmount 6) (low : price.value < 10 ^ 6) :
    (millionths tokens).mul price = (millionth tokens).product price ∧
      ((millionth tokens).product price).IsAmount 12 ∧
      ((millionth tokens).product price).value < 10 ^ 12 := by
  have bound : (tokens : ℚ) < 10 ^ 12 := by exact_mod_cast small
  have millions : (millionth tokens).value < 10 ^ 6 := by
    rw [value_millionth, div_lt_iff₀ (by norm_num)]
    exact bound.trans_le (by norm_num)
  have counted := IsAmount.millionth nonneg
  have value : ((millionth tokens).product price).value < 10 ^ 12 := by
    calc ((millionth tokens).product price).value
        = (millionth tokens).value * price.value := value_product _ _
      _ < 10 ^ 6 * 10 ^ 6 := mul_lt_mul'' millions low counted.nonneg amount.nonneg
      _ = 10 ^ 12 := by norm_num
  refine ⟨?_, counted.product amount, value⟩
  rw [millionths_exact nonneg small, mul_eq]
  exact (counted.product amount).round_eq_self (by decide)
    (value.trans (by norm_num [precision]))

end Number.Decimal

/-- **Costs are exact.**  For fewer than a trillion tokens in and out, at prices below a million
that are written with at most six decimal places, nothing is rounded on the way to the cost of a
call. -/
theorem Pricing.cost_is_exact (pricing : Pricing) (tokensIn tokensOut : Int)
    (countIn : 0 ≤ tokensIn ∧ tokensIn < 10 ^ 12) (countOut : 0 ≤ tokensOut ∧ tokensOut < 10 ^ 12)
    (priceIn : pricing.input.IsAmount 6 ∧ pricing.input.value < 10 ^ 6)
    (priceOut : pricing.output.IsAmount 6 ∧ pricing.output.value < 10 ^ 6) :
    pricing.IsExactAt tokensIn tokensOut ∧
      (pricing.cost tokensIn tokensOut).value =
        (tokensIn * pricing.input.value + tokensOut * pricing.output.value) / 10 ^ 6 := by
  obtain ⟨costIn, amountIn, smallIn⟩ :=
    cost_of_count_exact countIn.1 countIn.2 priceIn.1 priceIn.2
  obtain ⟨costOut, amountOut, smallOut⟩ :=
    cost_of_count_exact countOut.1 countOut.2 priceOut.1 priceOut.2
  have millionsIn : (millionths tokensIn).value = tokensIn / 10 ^ 6 := by
    rw [millionths_exact countIn.1 countIn.2, value_millionth]
  have millionsOut : (millionths tokensOut).value = tokensOut / 10 ^ 6 := by
    rw [millionths_exact countOut.1 countOut.2, value_millionth]
  have valueIn : ((millionths tokensIn).mul pricing.input).value =
      (millionths tokensIn).value * pricing.input.value := by
    rw [costIn, value_product, millionths_exact countIn.1 countIn.2]
  have valueOut : ((millionths tokensOut).mul pricing.output).value =
      (millionths tokensOut).value * pricing.output.value := by
    rw [costOut, value_product, millionths_exact countOut.1 countOut.2]
  have cost : (pricing.cost tokensIn tokensOut).value =
      ((millionths tokensIn).mul pricing.input).value +
        ((millionths tokensOut).mul pricing.output).value := by
    have sum := amountIn.sum amountOut
    have small : (((millionth tokensIn).product pricing.input).sum
        ((millionth tokensOut).product pricing.output)).value < 10 ^ (precision - 12) := by
      rw [value_sum]
      exact (add_lt_add smallIn smallOut).trans (by norm_num [precision])
    rw [costIn, costOut, ← value_sum, ← sum.round_eq_self (by decide) small, ← add_eq, ← costIn,
      ← costOut]
    rfl
  refine ⟨⟨millionsIn, millionsOut, valueIn, valueOut, cost⟩, ?_⟩
  rw [cost, valueIn, valueOut, millionsIn, millionsOut]
  ring

/-- The greatest such counts at the greatest such prices cost a number of 25 digits. -/
theorem Pricing.cost_of_greatest_is_exact :
    let price : Decimal := ⟨false, 999999999999, -6⟩
    let pricing : Pricing := ⟨price, price⟩
    price.IsAmount 6 ∧ price.value < 10 ^ 6 ∧ pricing.IsExactAt 999999999999 999999999999 ∧
      pricing.cost 999999999999 999999999999 = ⟨false, 1999999999996000000000002, -12⟩ := by
  intro price pricing
  have value : price.value = 999999999999 / 10 ^ 6 := by norm_num [price, value, magnitude]
  have amount : price.IsAmount 6 := ⟨by rw [value]; norm_num, by decide⟩
  have small : price.value < 10 ^ 6 := by rw [value]; norm_num
  refine ⟨amount, small, ?_, by decide⟩
  exact (pricing.cost_is_exact _ _ (by norm_num) (by norm_num) ⟨amount, small⟩ ⟨amount, small⟩).1

end PlanCycle
