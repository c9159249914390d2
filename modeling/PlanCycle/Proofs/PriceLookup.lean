/-
Module: PlanCycle.Proofs.PriceLookup
Purpose: Which prices count for a model: the table in force has the last usable override of each key
  and else the known prices, and of the keys that occur in a model's name a longest one decides,
  wherever it stands in the table.
Main exports:
  PriceTable.overriddenBy, PriceTable.lookup_withOverrides, PriceTable.IsKeyFor, PriceTable.IsBest,
  PriceTable.longest_key_decides
-/
import Mathlib.Data.List.MinMax
import Mathlib.Data.List.Nodup
import PlanCycle.Settings.Basic

namespace PlanCycle

open Number Text

namespace Text

theorem occursIn_iff_isInfix {part text : List Char} :
    occursIn part text = true ↔ part <:+: text := by
  induction text with
  | nil => simp [occursIn]
  | cons c text ih =>
      rw [occursIn, Bool.or_eq_true, List.isPrefixOf_iff_prefix, ih, List.infix_cons_iff]

end Text

namespace PriceTable

/-! ### The table in force -/

/-- The keys of a table in order. -/
def keys (table : PriceTable) : List String :=
  table.map (·.1)

/-- The key under which an override is put into the table. -/
def smallKey (key : String) : String :=
  String.ofList (lowerCase key.toList)

/-- The prices that an override gives, if there are exactly two of them. -/
def pricing? : List Decimal → Option Pricing
  | [input, output] => some ⟨input, output⟩
  | _ => none

/-- The prices that overrides give under a key, in order. -/
def overriddenBy (overrides : List (String × List Decimal)) (key : String) : List Pricing :=
  overrides.filterMap fun entry => if smallKey entry.1 = key then pricing? entry.2 else none

/-- The table with one override more. -/
def withOverride (table : PriceTable) (entry : String × List Decimal) : PriceTable :=
  match pricing? entry.2 with
  | some pricing => set (smallKey entry.1) pricing table
  | none => table

theorem withOverrides_eq (overrides : List (String × List Decimal)) (table : PriceTable) :
    withOverrides overrides table = overrides.foldl withOverride table := by
  unfold withOverrides
  congr 1
  funext table ⟨key, prices⟩
  rcases prices with _ | ⟨input, _ | ⟨output, _ | ⟨third, more⟩⟩⟩ <;> rfl

theorem lookup_cons (key : String) (entry : String × Pricing) (table : PriceTable) :
    List.lookup key (entry :: table) =
      if key = entry.1 then some entry.2 else List.lookup key table := by
  obtain ⟨name, pricing⟩ := entry
  by_cases same : key = name
  · rw [same, List.lookup_cons_self]
    exact (if_pos rfl).symm
  · rw [List.lookup_cons, beq_false_of_ne same]
    exact (if_neg same).symm

/-- What is set under a key is found there, and other keys are not affected. -/
theorem lookup_set (key other : String) (pricing : Pricing) (table : PriceTable) :
    List.lookup other (set key pricing table) =
      if other = key then some pricing else List.lookup other table := by
  induction table with
  | nil => exact lookup_cons other (key, pricing) []
  | cons entry entries ih =>
      unfold set
      split
      · rename_i here
        rw [lookup_cons, lookup_cons, here]
        split
        · rfl
        · rfl
      · rename_i differs
        rw [lookup_cons, lookup_cons, ih]
        split
        · rename_i found
          rw [if_neg (found ▸ differs)]
        · rfl

/-- A key that is set stands where it stood, or else last. -/
theorem keys_set (key : String) (pricing : Pricing) (table : PriceTable) :
    keys (set key pricing table) =
      if key ∈ keys table then keys table else keys table ++ [key] := by
  induction table with
  | nil => rfl
  | cons entry entries ih =>
      have whole : keys (entry :: entries) = entry.1 :: keys entries := rfl
      unfold set
      split
      · rename_i here
        rw [whole, here, if_pos List.mem_cons_self]
        rfl
      · rename_i differs
        have rest : keys (entry :: set key pricing entries) =
            entry.1 :: keys (set key pricing entries) := rfl
        have other : key ∈ keys (entry :: entries) ↔ key ∈ keys entries := by
          rw [whole, List.mem_cons, or_iff_right (Ne.symm differs)]
        rw [rest, ih]
        split
        · rename_i among
          rw [if_pos (other.mpr among), whole]
        · rename_i absent
          rw [if_neg fun among => absent (other.mp among), whole, List.cons_append]

theorem nodup_keys_set {table : PriceTable} (once : (keys table).Nodup) (key : String)
    (pricing : Pricing) : (keys (set key pricing table)).Nodup := by
  rw [keys_set]
  split
  · exact once
  · rename_i absent
    rw [List.nodup_append]
    refine ⟨once, by simp, fun other among last single => ?_⟩
    rw [List.mem_singleton.mp single]
    rintro rfl
    exact absent among

/-- One override more sets what it gives, under its own key. -/
theorem lookup_withOverride (table : PriceTable) (entry : String × List Decimal) (key : String) :
    List.lookup key (withOverride table entry) =
      ((if smallKey entry.1 = key then pricing? entry.2 else none).or (List.lookup key table)) := by
  unfold withOverride
  cases pricing? entry.2 with
  | none => simp
  | some pricing =>
      dsimp only
      rw [lookup_set]
      by_cases same : key = smallKey entry.1
      · simp [same]
      · simp [same, Ne.symm same]

theorem nodup_keys_withOverride {table : PriceTable} (once : (keys table).Nodup)
    (entry : String × List Decimal) : (keys (withOverride table entry)).Nodup := by
  unfold withOverride
  split
  · exact nodup_keys_set once _ _
  · exact once

/-- Under each key stand the prices of the last override that gives some, or else what stood there
before. -/
theorem lookup_withOverrides (overrides : List (String × List Decimal)) (table : PriceTable)
    (key : String) :
    List.lookup key (withOverrides overrides table) =
      (overriddenBy overrides key).getLast?.or (List.lookup key table) := by
  rw [withOverrides_eq]
  induction overrides using List.reverseRecOn with
  | nil => rfl
  | append_singleton overrides entry ih =>
      have longer : overriddenBy (overrides ++ [entry]) key = overriddenBy overrides key ++
          (if smallKey entry.1 = key then pricing? entry.2 else none).toList := by
        unfold overriddenBy
        rw [List.filterMap_append]
        cases given : if smallKey entry.1 = key then pricing? entry.2 else none <;> simp [given]
      rw [List.foldl_append, List.foldl_cons, List.foldl_nil, lookup_withOverride, ih, longer]
      cases if smallKey entry.1 = key then pricing? entry.2 else none with
      | none => simp
      | some pricing => simp

/-- An override without exactly two prices changes nothing. -/
theorem withOverrides_filter (overrides : List (String × List Decimal)) (table : PriceTable) :
    withOverrides (overrides.filter fun entry => entry.2.length = 2) table =
      withOverrides overrides table := by
  rw [withOverrides_eq, withOverrides_eq]
  induction overrides generalizing table with
  | nil => rfl
  | cons entry overrides ih =>
      rw [List.filter_cons]
      split
      · rw [List.foldl_cons, List.foldl_cons, ih]
      · rename_i other
        have unused : pricing? entry.2 = none := by
          unfold pricing?
          split
          · rename_i two
            rw [two] at other
            exact absurd rfl other
          · rfl
        have kept : withOverride table entry = table := by
          unfold withOverride
          rw [unused]
        rw [List.foldl_cons, kept, ih]

/-- No key stands twice in the table. -/
theorem nodup_keys_withOverrides {table : PriceTable} (once : (keys table).Nodup)
    (overrides : List (String × List Decimal)) : (keys (withOverrides overrides table)).Nodup := by
  rw [withOverrides_eq]
  induction overrides generalizing table with
  | nil => exact once
  | cons entry overrides ih => exact ih (nodup_keys_withOverride once entry)

/-! ### The longest key -/

theorem longest?_eq_argmax (table : PriceTable) :
    longest? table = table.argmax fun entry => entry.1.length := by
  induction table with
  | nil => rfl
  | cons entry entries ih =>
      rw [List.argmax_cons, ← ih, longest?]
      cases longest? entries <;> rfl

/-- Whether prices under a key are meant for a model: the key stands in the model's name. -/
def IsKeyFor (model key : String) : Prop :=
  key.toList <:+: lowerCase model.toList

instance (model key : String) : Decidable (IsKeyFor model key) :=
  decidable_of_iff _ occursIn_iff_isInfix

/-- Whether an entry of a table is meant for a model, and none that is has a longer key. -/
structure IsBest (table : PriceTable) (model : String) (entry : String × Pricing) : Prop where
  listed : entry ∈ table
  meant : IsKeyFor model entry.1
  longest : ∀ other ∈ table, IsKeyFor model other.1 → other.1.length ≤ entry.1.length

instance (table : PriceTable) (model : String) (entry : String × Pricing) :
    Decidable (IsBest table model entry) :=
  decidable_of_iff (entry ∈ table ∧ IsKeyFor model entry.1 ∧
      ∀ other ∈ table, IsKeyFor model other.1 → other.1.length ≤ entry.1.length)
    ⟨fun ⟨listed, meant, longest⟩ => ⟨listed, meant, longest⟩,
      fun ⟨listed, meant, longest⟩ => ⟨listed, meant, longest⟩⟩

section
variable {table : PriceTable} {model : String}

theorem mem_filter_occursIn {entry : String × Pricing} :
    entry ∈ table.filter (fun entry => occursIn entry.1.toList (lowerCase model.toList)) ↔
      entry ∈ table ∧ IsKeyFor model entry.1 := by
  rw [List.mem_filter, occursIn_iff_isInfix, IsKeyFor]

/-- Nothing is found exactly where no key is meant for the model. -/
theorem find?_eq_none_iff :
    table.find? model = none ↔ ∀ entry ∈ table, ¬IsKeyFor model entry.1 := by
  unfold find?
  rw [Option.map_eq_none_iff, longest?_eq_argmax, List.argmax_eq_none,
    List.eq_nil_iff_forall_not_mem]
  simp only [mem_filter_occursIn, not_and]

/-- What is found are the prices of an entry with a longest key. -/
theorem exists_isBest {pricing : Pricing} (found : table.find? model = some pricing) :
    ∃ key, IsBest table model (key, pricing) := by
  unfold find? at found
  obtain ⟨⟨key, own⟩, best, rfl⟩ := Option.map_eq_some_iff.mp found
  rw [longest?_eq_argmax] at best
  obtain ⟨listed, meant⟩ := mem_filter_occursIn.mp (List.argmax_mem best)
  refine ⟨key, listed, meant, fun other among also => ?_⟩
  exact List.le_of_mem_argmax (f := fun entry : String × Pricing => entry.1.length)
    (mem_filter_occursIn.mpr ⟨among, also⟩) best

/-- Where there is one best entry only, its prices are found. -/
theorem find?_of_isBest {entry : String × Pricing} (best : IsBest table model entry)
    (alone : ∀ other, IsBest table model other → other = entry) :
    table.find? model = some entry.2 := by
  cases found : table.find? model with
  | none => exact absurd best.meant (find?_eq_none_iff.mp found entry best.listed)
  | some pricing =>
      obtain ⟨key, other⟩ := exists_isBest found
      rw [← alone (key, pricing) other]

/-- Which entry is best does not depend on the order of a table. -/
theorem isBest_congr {other : PriceTable} (same : ∀ entry, entry ∈ other ↔ entry ∈ table)
    {entry : String × Pricing} : IsBest other model entry ↔ IsBest table model entry := by
  constructor
  · intro best
    exact ⟨(same entry).mp best.listed, best.meant,
      fun rival among => best.longest rival ((same rival).mpr among)⟩
  · intro best
    exact ⟨(same entry).mpr best.listed, best.meant,
      fun rival among => best.longest rival ((same rival).mp among)⟩

/-- The order of a table does not count where one key is longest. -/
theorem find?_congr {other : PriceTable} (once : (keys table).Nodup)
    (same : ∀ entry, entry ∈ other ↔ entry ∈ table)
    (alone : ∀ one two, IsBest table model one → IsBest table model two → one.1 = two.1) :
    other.find? model = table.find? model := by
  cases found : table.find? model with
  | none =>
      rw [find?_eq_none_iff] at found ⊢
      exact fun entry among => found entry ((same entry).mp among)
  | some pricing =>
      obtain ⟨key, best⟩ := exists_isBest found
      refine find?_of_isBest ((isBest_congr same).mpr best) fun rival also => ?_
      have rivals := (isBest_congr same).mp also
      exact List.inj_on_of_nodup_map once rivals.listed best.listed (alone _ _ rivals best)

end

/-- **Which prices count.**  The table in force has each key once.  Under a key stand the prices of
the last override that gives two prices under it, whatever its letter case, else the known ones;
other overrides have no effect.  In any table nothing is found for a model exactly if no key occurs
in its name in small letters, and otherwise the prices under such a key that no other one exceeds;
so the order of the table does not count where only one key is longest. -/
theorem longest_key_decides (settings : Settings) (model : String) (table : PriceTable) :
    ((keys settings.prices).Nodup ∧
      (∀ key, List.lookup key settings.prices =
        (overriddenBy settings.pricingOverrides key).getLast?.or (List.lookup key builtIn)) ∧
      settings.prices =
        builtIn.withOverrides (settings.pricingOverrides.filter fun entry => entry.2.length = 2)) ∧
    (table.find? model = none ↔ ∀ entry ∈ table, ¬IsKeyFor model entry.1) ∧
    (∀ pricing, table.find? model = some pricing → ∃ key, IsBest table model (key, pricing)) ∧
    ∀ other : PriceTable, (keys table).Nodup → (∀ entry, entry ∈ other ↔ entry ∈ table) →
      (∀ one two, IsBest table model one → IsBest table model two → one.1 = two.1) →
      other.find? model = table.find? model := by
  have known : (keys builtIn).Nodup := by decide
  refine ⟨⟨nodup_keys_withOverrides known _, fun key => lookup_withOverrides _ builtIn key,
      (withOverrides_filter _ builtIn).symm⟩,
    find?_eq_none_iff, fun pricing found => exists_isBest found, fun other once same alone => ?_⟩
  exact find?_congr once same alone

/-- Of two overrides that differ in letter case the later one counts, one with a single price has no
effect, and the longer of two keys decides wherever it stands. -/
theorem longer_key_decides :
    let settings : Settings := { pricingOverrides :=
      [("Claude-Sonnet", [hundredths 1, hundredths 2]),
        ("CLAUDE-SONNET", [hundredths 3, hundredths 4]), ("claude-sonnet", [hundredths 5]),
        ("sonnet-4", [hundredths 6, hundredths 7])] }
    let table := settings.prices
    let model := "Claude-Sonnet-4"
    ((keys table).Nodup ∧ (∀ entry, entry ∈ table.reverse ↔ entry ∈ table) ∧
      ∀ one two, IsBest table model one → IsBest table model two → one.1 = two.1) ∧
    IsKeyFor model "sonnet-4" ∧
    List.lookup "claude-sonnet" table = some ⟨hundredths 3, hundredths 4⟩ ∧
    find? table.reverse model = table.find? model ∧
    ∃ key, IsBest table model (key, ⟨hundredths 3, hundredths 4⟩) := by
  intro settings table model
  obtain ⟨⟨once, held, -⟩, -, best, order⟩ := longest_key_decides settings model table
  have same : ∀ entry, entry ∈ table.reverse ↔ entry ∈ table := fun entry => List.mem_reverse
  have listed : ∀ one ∈ table, ∀ two ∈ table, IsBest table model one → IsBest table model two →
      one.1 = two.1 := by decide +kernel
  have alone : ∀ one two, IsBest table model one → IsBest table model two → one.1 = two.1 :=
    fun one two first second => listed one first.listed two second.listed first second
  have found : table.find? model = some ⟨hundredths 3, hundredths 4⟩ := by decide +kernel
  refine ⟨⟨once, same, alone⟩, by decide +kernel, (held "claude-sonnet").trans (by decide +kernel),
    order table.reverse once same alone, best _ found⟩

end PriceTable

end PlanCycle
