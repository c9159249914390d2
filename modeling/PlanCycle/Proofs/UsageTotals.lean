/-
Module: PlanCycle.Proofs.UsageTotals
Purpose: Totals of usage records are exact sums that do not depend on the order of the records and
  that add up from the totals of parts.
Main exports:
  Decimal.IsTotal, Decimal.isTotal_foldl, UsageTotals.plus, PriceTable.cost_isAmount,
  summarize_adds_up
-/
import Mathlib.Algebra.BigOperators.Group.List.Basic
import PlanCycle.Proofs.DecimalValue
import PlanCycle.Usage.Ledger

namespace PlanCycle

open Number

namespace Number.Decimal

/-! ### Totals of amounts -/

/-- Whether a number is the exact total of others: their sum without a minus sign, with as many
decimal places as the one with most of them. -/
structure IsTotal (amounts : List Decimal) (total : Decimal) : Prop where
  plus : total.negative = false
  value : total.value = (amounts.map value).sum
  exponent : total.exponent = (amounts.map (·.exponent)).foldl min 0

/-- Two amounts are added exactly if their sum fits into the precision. -/
theorem add_exact {a b : Decimal} {places : Nat} (left : a.IsAmount places)
    (right : b.IsAmount places) (few : places ≤ precision)
    (small : a.value + b.value < 10 ^ (precision - places)) : a.add b = a.sum b := by
  rw [add_eq]
  exact (left.sum right).round_eq_self few (by rwa [value_sum])

/-- A sum that is not below zero has no minus sign if the first number has none. -/
theorem plus_sum {a b : Decimal} (plus : a.negative = false) (nonneg : 0 ≤ a.value + b.value) :
    (a.sum b).negative = false := by
  have scale : (0 : ℚ) < 10 ^ min a.exponent b.exponent := by positivity
  have value := value_sum a b
  rw [← a.value_scaledTo (min_le_left a.exponent b.exponent),
    ← b.value_scaledTo (min_le_right a.exponent b.exponent), ← add_mul,
    mul_nonneg_iff_of_pos_right scale] at nonneg
  have above :
      0 ≤ a.scaledTo (min a.exponent b.exponent) + b.scaledTo (min a.exponent b.exponent) := by
    exact_mod_cast nonneg
  unfold sum
  dsimp only
  split
  · rw [plus, Bool.false_and, Bool.false_and]
  · exact decide_eq_false (not_lt.mpr above)

theorem foldl_min_le (exponents : List Int) (start : Int) : exponents.foldl min start ≤ start := by
  induction exponents generalizing start with
  | nil => exact le_rfl
  | cons exponent exponents ih => exact (ih _).trans (min_le_left _ _)

theorem le_foldl_min {exponents : List Int} {start least : Int} (above : least ≤ start)
    (all : ∀ exponent ∈ exponents, least ≤ exponent) : least ≤ exponents.foldl min start := by
  induction exponents generalizing start with
  | nil => exact above
  | cons exponent exponents ih =>
      obtain ⟨first, rest⟩ := List.forall_mem_cons.mp all
      exact ih (le_min above first) rest

namespace IsTotal

variable {amounts more : List Decimal} {total other amount : Decimal} {places : Nat}

theorem zero : IsTotal [] .zero :=
  ⟨rfl, by simp, rfl⟩

/-- There is only one total. -/
theorem unique (isTotal : IsTotal amounts total) (isOther : IsTotal amounts other) :
    total = other :=
  ext_value isTotal.plus isOther.plus (isTotal.exponent.trans isOther.exponent.symm)
    (isTotal.value.trans isOther.value.symm)

/-- The order of the amounts does not matter. -/
theorem perm (isTotal : IsTotal amounts total) (same : amounts.Perm more) : IsTotal more total where
  plus := isTotal.plus
  value := isTotal.value.trans (same.map Decimal.value).sum_eq
  exponent := isTotal.exponent.trans ((same.map (·.exponent)).foldl_eq 0)

/-- A total has no more decimal places than the amounts. -/
theorem isAmount (isTotal : IsTotal amounts total)
    (all : ∀ amount ∈ amounts, amount.IsAmount places) : total.IsAmount places := by
  refine ⟨value_nonneg_iff.mpr (.inl isTotal.plus), ?_⟩
  rw [isTotal.exponent]
  exact le_foldl_min (by omega)
    (List.forall_mem_map.mpr fun amount member => (all amount member).places_le)

/-- One more amount is added exactly. -/
theorem push (isTotal : IsTotal amounts total)
    (all : ∀ amount ∈ amounts, amount.IsAmount places) (isAmount : amount.IsAmount places)
    (few : places ≤ precision)
    (small : ((amounts ++ [amount]).map Decimal.value).sum < 10 ^ (precision - places)) :
    IsTotal (amounts ++ [amount]) (total.add amount) := by
  have sum : total.value + amount.value = ((amounts ++ [amount]).map Decimal.value).sum := by
    simp [isTotal.value]
  have whole := isTotal.isAmount all
  rw [add_exact whole isAmount few (by rwa [sum])]
  refine ⟨plus_sum isTotal.plus (add_nonneg whole.nonneg isAmount.nonneg), ?_, ?_⟩
  · rw [value_sum, sum]
  · rw [List.map_append, List.foldl_append, ← isTotal.exponent]
    rfl

/-- The totals of two parts are added exactly. -/
theorem append (isTotal : IsTotal amounts total) (isOther : IsTotal more other)
    (all : ∀ amount ∈ amounts ++ more, amount.IsAmount places) (few : places ≤ precision)
    (small : ((amounts ++ more).map Decimal.value).sum < 10 ^ (precision - places)) :
    IsTotal (amounts ++ more) (total.add other) := by
  obtain ⟨first, rest⟩ := List.forall_mem_append.mp all
  have sum : total.value + other.value = ((amounts ++ more).map Decimal.value).sum := by
    simp [isTotal.value, isOther.value]
  have left := isTotal.isAmount first
  have right := isOther.isAmount rest
  rw [add_exact left right few (by rwa [sum])]
  refine ⟨plus_sum isTotal.plus (add_nonneg left.nonneg right.nonneg), ?_, ?_⟩
  · rw [value_sum, sum]
  · show min total.exponent other.exponent = _
    have merged : (more.map (·.exponent)).foldl min (min total.exponent 0) =
        min total.exponent ((more.map (·.exponent)).foldl min 0) := List.foldl_assoc
    rw [min_eq_left (isTotal.exponent ▸ foldl_min_le _ 0)] at merged
    rw [isOther.exponent, List.map_append, List.foldl_append, ← isTotal.exponent, merged]

end IsTotal

/-- Amounts are added up exactly if their sum fits into the precision. -/
theorem isTotal_foldl {amounts : List Decimal} {places : Nat} (few : places ≤ precision)
    (all : ∀ amount ∈ amounts, amount.IsAmount places)
    (small : (amounts.map value).sum < 10 ^ (precision - places)) :
    IsTotal amounts (amounts.foldl add zero) := by
  induction amounts using List.reverseRecOn with
  | nil => exact .zero
  | append_singleton amounts amount ih =>
      obtain ⟨before, last⟩ := List.forall_mem_append.mp all
      have isAmount := last amount (List.mem_singleton_self amount)
      have fewer : (amounts.map value).sum ≤ ((amounts ++ [amount]).map value).sum := by
        simp [isAmount.nonneg]
      rw [List.foldl_concat]
      exact (ih before (fewer.trans_lt small)).push before isAmount few small

end Number.Decimal

/-! ### Costs at the prices of a table -/

namespace Pricing

/-- A cost has six places more than the prices at most, however it is rounded. -/
theorem cost_isAmount {pricing : Pricing} {places : Nat} {tokensIn tokensOut : Int}
    (input : pricing.input.IsAmount places) (output : pricing.output.IsAmount places)
    (countIn : 0 ≤ tokensIn) (countOut : 0 ≤ tokensOut) :
    (pricing.cost tokensIn tokensOut).IsAmount (6 + places) := by
  have share {tokens : Int} {price : Decimal} (nonneg : 0 ≤ tokens)
      (isAmount : price.IsAmount places) :
      ((Decimal.millionths tokens).mul price).IsAmount (6 + places) := by
    rw [Decimal.mul_eq, Decimal.millionths_eq]
    exact ((Decimal.IsAmount.millionth nonneg).round.product isAmount).round
  exact ((share countIn input).sum (share countOut output)).round

end Pricing

namespace PriceTable

theorem mem_of_longest? {table : PriceTable} {entry : String × Pricing}
    (found : longest? table = some entry) : entry ∈ table := by
  induction table with
  | nil => cases found
  | cons first rest ih =>
      unfold longest? at found
      split at found
      · cases found
        exact List.mem_cons_self
      · rename_i other longest
        split at found
        · cases found
          exact List.mem_cons_of_mem _ (ih longest)
        · cases found
          exact List.mem_cons_self

theorem mem_of_find? {table : PriceTable} {model : String} {pricing : Pricing}
    (found : table.find? model = some pricing) : ∃ entry ∈ table, entry.2 = pricing := by
  obtain ⟨entry, longest, rfl⟩ := Option.map_eq_some_iff.mp found
  exact ⟨entry, List.mem_of_mem_filter (mem_of_longest? longest), rfl⟩

/-- At prices with so many decimal places a cost has six more at most. -/
theorem cost_isAmount {table : PriceTable} {places : Nat}
    (prices : ∀ entry ∈ table, entry.2.input.IsAmount places ∧ entry.2.output.IsAmount places)
    (model : String) {tokensIn tokensOut : Int} (countIn : 0 ≤ tokensIn)
    (countOut : 0 ≤ tokensOut) : (table.cost model tokensIn tokensOut).IsAmount (6 + places) := by
  unfold cost
  split
  · rename_i pricing found
    obtain ⟨entry, member, rfl⟩ := mem_of_find? found
    obtain ⟨input, output⟩ := prices entry member
    exact Pricing.cost_isAmount input output countIn countOut
  · exact .zero

theorem hundredths_isAmount (n : Nat) : (hundredths n).IsAmount 2 :=
  ⟨Decimal.value_nonneg_iff.mpr (.inl rfl), le_rfl⟩

/-- Costs at the known prices have eight decimal places at most. -/
theorem builtIn_cost_isAmount (model : String) {tokensIn tokensOut : Int} (countIn : 0 ≤ tokensIn)
    (countOut : 0 ≤ tokensOut) : (builtIn.cost model tokensIn tokensOut).IsAmount 8 := by
  have prices : ∀ entry ∈ builtIn, entry.2.input.IsAmount 2 ∧ entry.2.output.IsAmount 2 := by
    simp [builtIn, hundredths_isAmount]
  exact cost_isAmount prices model countIn countOut

end PriceTable

/-! ### Totals of records -/

/-- The totals of two lists of calls together. -/
def UsageTotals.plus (totals more : UsageTotals) : UsageTotals :=
  { calls := totals.calls + more.calls
    tokensIn := totals.tokensIn + more.tokensIn
    tokensOut := totals.tokensOut + more.tokensOut
    cost := totals.cost.add more.cost }

/-- Whether records can be added up without rounding: their costs have eight decimal places at most
and are less than 10^20 together. -/
structure AreSummable (records : List UsageRecord) : Prop where
  amounts : ∀ record ∈ records, record.cost.IsAmount 8
  small : (records.map (·.cost.value)).sum < 10 ^ 20

namespace AreSummable

variable {records others part rest : List UsageRecord}

theorem perm (summable : AreSummable records) (same : others.Perm records) :
    AreSummable others where
  amounts record member := summable.amounts record (same.mem_iff.mp member)
  small := by
    rw [(same.map _).sum_eq]
    exact summable.small

/-- The first part of what can be added up costs no more than the whole. -/
theorem left (summable : AreSummable (part ++ rest)) : AreSummable part where
  amounts record member := summable.amounts record (List.mem_append_left rest member)
  small := by
    have nonneg : 0 ≤ (rest.map (·.cost.value)).sum :=
      List.sum_nonneg (List.forall_mem_map.mpr fun record member =>
        (summable.amounts record (List.mem_append_right part member)).nonneg)
    have whole := summable.small
    rw [List.map_append, List.sum_append] at whole
    linarith

theorem right (summable : AreSummable (part ++ rest)) : AreSummable rest :=
  (summable.perm List.perm_append_comm).left

/-- The cost of all records is the total of their costs. -/
theorem isTotal (summable : AreSummable records) :
    Decimal.IsTotal (records.map (·.cost)) (summarize records).cost := by
  have amounts : ∀ cost ∈ records.map (·.cost), cost.IsAmount 8 :=
    List.forall_mem_map.mpr summable.amounts
  have folded := Decimal.isTotal_foldl (by decide) amounts
    (by rw [List.map_map]; exact summable.small)
  rwa [List.foldl_map] at folded

theorem summarize_perm (summable : AreSummable records) (same : others.Perm records) :
    summarize others = summarize records := by
  have cost : (summarize others).cost = (summarize records).cost :=
    ((summable.perm same).isTotal.perm (same.map _)).unique summable.isTotal
  have tokens (count : UsageRecord → Int) : total (others.map count) = total (records.map count) :=
    (same.map count).sum_eq
  exact (UsageTotals.mk.injEq ..).mpr ⟨same.length_eq, tokens _, tokens _, cost⟩

theorem summarize_append (summable : AreSummable (part ++ rest)) :
    (summarize part).plus (summarize rest) = summarize (part ++ rest) := by
  have whole := summable.isTotal
  have small := summable.small
  have amounts := summable.amounts
  rw [List.map_append] at whole
  have cost : (summarize part).cost.add (summarize rest).cost = (summarize (part ++ rest)).cost :=
    (summable.left.isTotal.append summable.right.isTotal
      (by rw [← List.map_append]; exact List.forall_mem_map.mpr amounts) (by decide)
      (by rw [← List.map_append, List.map_map]; exact small)).unique whole
  have tokens (count : UsageRecord → Int) :
      total (part.map count) + total (rest.map count) = total ((part ++ rest).map count) := by
    rw [List.map_append]
    exact List.sum_append.symm
  exact (UsageTotals.mk.injEq ..).mpr ⟨List.length_append.symm, tokens _, tokens _, cost⟩

end AreSummable

/-- **Totals add up.**  Of records whose costs have eight decimal places at most, as all costs at
the known prices have, and that cost less than 10^20 together, the totals are the exact sums.  They
are the same for the records in any order, to the last zero of the cost, and the totals of two parts
add up to those of the whole. -/
theorem summarize_adds_up (records : List UsageRecord)
    (amounts : ∀ record ∈ records, record.cost.IsAmount 8)
    (small : (records.map (·.cost.value)).sum < 10 ^ 20) :
    ((summarize records).calls = records.length ∧
      (summarize records).tokensIn = (records.map (·.tokensIn)).sum ∧
      (summarize records).tokensOut = (records.map (·.tokensOut)).sum ∧
      (summarize records).cost.value = (records.map (·.cost.value)).sum) ∧
    (∀ others, others.Perm records → summarize others = summarize records) ∧
    (∀ part rest, (part ++ rest).Perm records →
      (summarize part).plus (summarize rest) = summarize records ∧
        (summarize part).cost.value + (summarize rest).cost.value =
          (summarize records).cost.value) ∧
    ∀ model tokensIn tokensOut, 0 ≤ tokensIn → 0 ≤ tokensOut →
      (PriceTable.builtIn.cost model tokensIn tokensOut).IsAmount 8 := by
  have summable : AreSummable records := ⟨amounts, small⟩
  refine ⟨⟨rfl, rfl, rfl, ?_⟩, fun others same => summable.summarize_perm same,
    fun part rest same => ?_, fun model _ _ => PriceTable.builtIn_cost_isAmount model⟩
  · rw [summable.isTotal.value, List.map_map]
    rfl
  · have split := summable.perm same
    have merged : (summarize part).plus (summarize rest) = summarize records :=
      split.summarize_append.trans (summable.summarize_perm same)
    refine ⟨merged, ?_⟩
    rw [split.left.isTotal.value, split.right.isTotal.value, summable.isTotal.value,
      ← List.sum_append, ← List.map_append, ← List.map_append]
    exact ((same.map _).map _).sum_eq

/-- A total close to the limit needs all digits of the precision: a cost with eight decimal places
is not lost beside one of twenty digits, in whatever order they are added. -/
theorem summarize_great_and_small :
    let record (cost : Decimal) : UsageRecord :=
      { step := "challenge", model := "m", tokensIn := 3, tokensOut := 1, cost }
    let great := record ⟨false, 99999999999999999999, 0⟩
    let free := record ⟨false, 0, -2⟩
    let small := record ⟨false, 99999999, -8⟩
    let records := [great, free, small]
    ((∀ each ∈ records, each.cost.IsAmount 8) ∧ (records.map (·.cost.value)).sum < 10 ^ 20) ∧
      (summarize records.reverse).cost.text = "99999999999999999999.99999999" ∧
      summarize records.reverse = summarize records ∧
      (summarize [free]).plus (summarize [small, great]) = summarize records := by
  intro record great free small records
  have amounts : ∀ each ∈ records, each.cost.IsAmount 8 := by
    simp only [records, great, free, small, record, List.forall_mem_cons, List.not_mem_nil,
      false_imp_iff, implies_true, and_true]
    refine ⟨⟨?_, by decide⟩, ⟨?_, by decide⟩, ⟨?_, by decide⟩⟩ <;>
      exact Decimal.value_nonneg_iff.mpr (.inl rfl)
  have bound : (records.map (·.cost.value)).sum < 10 ^ 20 := by
    norm_num [records, great, free, small, record, Decimal.value, Decimal.magnitude]
  obtain ⟨-, orders, parts, -⟩ := summarize_adds_up records amounts bound
  have same : ([free] ++ [small, great]).Perm records :=
    @List.perm_middle _ great [free, small] []
  refine ⟨⟨amounts, bound⟩, by decide +kernel, orders _ (List.reverse_perm records), ?_⟩
  exact (parts [free] [small, great] same).1

end PlanCycle
