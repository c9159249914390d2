/-
Module: PlanCycle.Proofs.DecimalReading
Purpose: A decimal number is read back from its text as it was: with its sign, its digits and its
  exponent.
Main exports:
  Decimal.IsWritten, Decimal.isWritten_chars, Decimal.readChars?_of_written, Decimal.read?_text,
  DecimalText.toDecimal_ofDecimal
-/
import PlanCycle.Number.DecimalText
import PlanCycle.Proofs.JsonReading

namespace PlanCycle.Number

open Text Json

/-! ### Runs of digits -/

theorem areDigits_digitsOf (n : Nat) : AreDigits (digitsOf n) :=
  fun _ member => isDigit_of_mem_digitsOf member

/-- The digits of a number stand for it. -/
theorem ofDigits_digitsOf (n : Nat) : ofDigits (digitsOf n) = n := by
  calc ofDigits (digitsOf n)
      = numberOf (digitsOf n) := by
        refine List.foldl_ext _ _ _ fun value c member => ?_
        rw [digitValue?_of_ascii (isDigit_of_mem_digitsOf member)]
        rfl
    _ = n := numberOf_digitsOf n

/-- Zeros before the digits do not count. -/
theorem ofDigits_zeros (count : Nat) (digits : List Char) :
    ofDigits (List.replicate count '0' ++ digits) = ofDigits digits := by
  induction count with
  | zero => rfl
  | succ count ih => exact ih

theorem areDigits_append {first second : List Char} :
    AreDigits (first ++ second) ↔ AreDigits first ∧ AreDigits second :=
  List.forall_mem_append

namespace Decimal

/-! ### Written numbers -/

/-- `IsWritten d text`: a number may be written so, with a sign if it is negative, digits, maybe a
fraction, and maybe an exponent. -/
inductive IsWritten : Decimal → List Char → Prop where
  | digits {negative : Bool} {digits part fraction exponent : List Char} {power : Int} :
      digits ≠ [] → AreDigits digits → Fraction part fraction → Exponent power exponent →
      IsWritten ⟨negative, ofDigits (digits ++ part), power - part.length⟩
        (minus negative ++ (digits ++ (fraction ++ exponent)))

/-- The same with the number in any form. -/
theorem IsWritten.of_digits {d : Decimal} {digits part fraction exponent : List Char} {power : Int}
    (filled : digits ≠ []) (areDigits : AreDigits digits) (isFraction : Fraction part fraction)
    (isExponent : Exponent power exponent) (coefficient : ofDigits (digits ++ part) = d.coefficient)
    (places : power - part.length = d.exponent) :
    IsWritten d (minus d.negative ++ (digits ++ (fraction ++ exponent))) := by
  have written : IsWritten ⟨d.negative, _, _⟩ _ :=
    .digits filled areDigits isFraction isExponent
  rwa [coefficient, places] at written

/-- The exponent with its sign. -/
theorem exponent_of_power (power : Int) :
    Exponent power ('E' :: (if power < 0 then '-' else '+') :: digitsOf power.natAbs) := by
  have read := ofDigits_digitsOf power.natAbs
  by_cases negative : power < 0
  · have written : Exponent _ ('E' :: '-' :: digitsOf power.natAbs) :=
      .negative (by decide) (digitsOf_ne_nil _) (areDigits_digitsOf _)
    rw [read, show -(power.natAbs : Int) = power by omega] at written
    rwa [if_pos negative]
  · have written : Exponent _ ('E' :: (['+'] ++ digitsOf power.natAbs)) :=
      .positive (by decide) (by decide) (digitsOf_ne_nil _) (areDigits_digitsOf _)
    rw [read, show (power.natAbs : Int) = power by omega] at written
    rwa [if_neg negative]

section
variable {d : Decimal} {digits : List Char} (filled : digits ≠ []) (areDigits : AreDigits digits)
  (number : ofDigits digits = d.coefficient)
include filled areDigits number

/-- Digits alone. -/
theorem isWritten_whole (places : d.exponent = 0) :
    IsWritten d (minus d.negative ++ digits) := by
  have coefficient : ofDigits (digits ++ []) = d.coefficient := by rwa [List.append_nil]
  have written := IsWritten.of_digits filled areDigits .none .none coefficient
    (by rw [places, List.length_nil]; rfl)
  rwa [List.append_nil, List.append_nil] at written

/-- Zeros between the point and the digits. -/
theorem isWritten_padded {zeros : Nat} (places : d.exponent = -(zeros + digits.length : Nat)) :
    IsWritten d (minus d.negative ++ '0' :: '.' :: (List.replicate zeros '0' ++ digits)) := by
  have zero (count : Nat) : AreDigits (List.replicate count '0') := fun c member => by
    rw [List.eq_of_mem_replicate member]
    rfl
  have coefficient : ofDigits (['0'] ++ (List.replicate zeros '0' ++ digits)) = d.coefficient :=
    (ofDigits_zeros 1 _).trans ((ofDigits_zeros zeros digits).trans number)
  have written := IsWritten.of_digits (List.cons_ne_nil _ _) (zero 1)
    (.digits (by simp [filled]) (areDigits_append.mpr ⟨zero zeros, areDigits⟩)) .none coefficient
    (by rw [places, List.length_append, List.length_replicate]; omega)
  rwa [List.append_nil] at written

omit filled in
/-- A point among the digits. -/
theorem isWritten_pointed {count : Nat} (before : 0 < count) (behind : count < digits.length)
    (places : d.exponent = count - digits.length) :
    IsWritten d (minus d.negative ++ (digits.take count ++ '.' :: digits.drop count)) := by
  have cut := List.take_append_drop count digits
  obtain ⟨whole, part⟩ := areDigits_append.mp (cut.symm ▸ areDigits)
  have coefficient : ofDigits (digits.take count ++ digits.drop count) = d.coefficient := by
    rwa [cut]
  have written := IsWritten.of_digits
    (List.ne_nil_of_length_pos (by rw [List.length_take]; omega)) whole
    (.digits (List.ne_nil_of_length_pos (by rw [List.length_drop]; omega)) part) .none coefficient
    (by rw [places, List.length_drop]; omega)
  rwa [List.append_nil] at written

end

/-- One digit, maybe a point and the other digits behind it, and an exponent. -/
theorem isWritten_scientific {d : Decimal} {first : Char} {rest fraction : List Char} {power : Int}
    (areDigits : AreDigits (first :: rest)) (number : ofDigits (first :: rest) = d.coefficient)
    (isFraction : Fraction rest fraction) (places : d.exponent = power - rest.length) :
    IsWritten d (minus d.negative ++ ([first] ++ (fraction ++
      'E' :: (if power < 0 then '-' else '+') :: digitsOf power.natAbs))) := by
  obtain ⟨one, -⟩ : AreDigits [first] ∧ AreDigits rest := areDigits_append.mp areDigits
  exact .of_digits (List.cons_ne_nil _ _) one isFraction (exponent_of_power power) number
    places.symm

/-- The text of a number is one of the ways to write it. -/
theorem isWritten_chars (d : Decimal) : IsWritten d d.chars := by
  have filled := digitsOf_ne_nil d.coefficient
  have areDigits := areDigits_digitsOf d.coefficient
  have number := ofDigits_digitsOf d.coefficient
  have counted : 0 < (digitsOf d.coefficient).length := List.length_pos_iff.mpr filled
  have signed (body : List Char) :
      (if d.negative then '-' :: body else body) = minus d.negative ++ body := by
    unfold minus
    split <;> rfl
  unfold chars
  simp only [signed]
  rw [show (toString d.coefficient).toList = digitsOf d.coefficient from rfl]
  split
  · split
    · exact isWritten_whole filled areDigits number ‹_›
    · split
      · exact isWritten_padded filled areDigits number (by omega)
      · exact isWritten_pointed areDigits number (by omega) (by omega) (by omega)
  · -- A single digit is written without a point.
    generalize digitsOf d.coefficient = digits at *
    obtain _ | ⟨first, _ | ⟨second, rest⟩⟩ := digits
    · exact absurd rfl filled
    · exact isWritten_scientific areDigits number .none (by simp)
    · have others : AreDigits (second :: rest) := fun c member =>
        areDigits c (List.mem_cons_of_mem first member)
      exact isWritten_scientific areDigits number (.digits (List.cons_ne_nil _ _) others)
        (by simp only [List.length_cons]; omega)

/-! ### Reading -/

/-- Whether a character can stand in a written number. -/
def IsNumeric (c : Char) : Prop :=
  c.isDigit = true ∨ c ∈ ['-', '+', '.', 'e', 'E']

/-- Such a character is kept as it is when a text is made ready for reading. -/
theorem IsNumeric.kept {c : Char} (numeric : IsNumeric c) :
    isBlank c = false ∧ (c != '_') = true ∧ plainDigit c = c := by
  rcases numeric with digit | mark
  · refine ⟨(visible_digit digit).2, ?_, ?_⟩
    · rw [bne_iff_ne]
      rintro rfl
      exact absurd digit (by decide)
    · have code := isAsciiDigit_iff.mp digit
      rw [plainDigit, digitValue?_of_ascii digit]
      exact (congrArg Char.ofNat (by omega)).trans (Char.ofNat_toNat c)
  · simp only [List.mem_cons, List.not_mem_nil, or_false] at mark
    rcases mark with rfl | rfl | rfl | rfl | rfl <;> decide

theorem plainDigits_of_numeric {text : List Char} (numeric : ∀ c ∈ text, IsNumeric c) :
    plainDigits ((trim text).filter (· != '_')) = text := by
  rw [show trim text = text from trimOf_of_none fun c member => (numeric c member).kept.1,
    List.filter_eq_self.mpr fun c member => (numeric c member).kept.2.1, plainDigits_eq,
    List.map_congr_left fun c member => (numeric c member).kept.2.2, List.map_id']

section
variable {negative : Bool} {digits part fraction exponent : List Char} {power : Int}

theorem numeric_fraction (isFraction : Fraction part fraction) : ∀ c ∈ fraction, IsNumeric c := by
  cases isFraction with
  | none => simp
  | digits _ areDigits =>
      exact List.forall_mem_cons.mpr ⟨.inr (by decide), fun c member => .inl (areDigits c member)⟩

theorem numeric_exponent (isExponent : Exponent power exponent) :
    ∀ c ∈ exponent, IsNumeric c := by
  have marks {mark : Char} (member : mark ∈ ['e', 'E']) : IsNumeric mark :=
    .inr (List.mem_append_right ['-', '+', '.'] member)
  cases isExponent with
  | none => simp
  | @positive mark plus _ marked signed _ areDigits =>
      refine List.forall_mem_cons.mpr ⟨marks marked, List.forall_mem_append.mpr ⟨fun c member => ?_,
        fun c member => .inl (areDigits c member)⟩⟩
      have sign : plus = [] ∨ plus = ['+'] := by simpa using signed
      rcases sign with rfl | rfl
      · cases member
      · exact .inr (by rw [List.mem_singleton.mp member]; decide)
  | negative marked _ areDigits =>
      exact List.forall_mem_cons.mpr ⟨marks marked, List.forall_mem_cons.mpr ⟨.inr (by decide),
        fun c member => .inl (areDigits c member)⟩⟩

/-- A digit is no sign. -/
theorem splitSign_of_digits (filled : digits ≠ []) (areDigits : AreDigits digits)
    (rest : List Char) : splitSign (digits ++ rest) = (false, digits ++ rest) := by
  obtain ⟨c, tail, rfl, noMinus, noPlus⟩ := unsigned_run filled areDigits
  unfold splitSign
  split
  · rename_i same
    exact absurd (List.cons.inj same).1 noMinus
  · rename_i same
    exact absurd (List.cons.inj same).1 noPlus
  · rfl

theorem splitSign_minus (filled : digits ≠ []) (areDigits : AreDigits digits) (rest : List Char) :
    splitSign (minus negative ++ (digits ++ rest)) = (negative, digits ++ rest) := by
  cases negative with
  | true => rfl
  | false => exact splitSign_of_digits filled areDigits rest

/-- What is no mark of an exponent is read up to the exponent. -/
theorem mantissa_cut (areDigits : AreDigits digits) (isFraction : Fraction part fraction)
    (isExponent : Exponent power exponent) :
    let isPlain (c : Char) := !(c == 'e' || c == 'E')
    (digits ++ (fraction ++ exponent)).takeWhile isPlain = digits ++ fraction ∧
      (digits ++ (fraction ++ exponent)).dropWhile isPlain = exponent := by
  intro isPlain
  have digit {c : Char} (digit : c.isDigit = true) : isPlain c = true := by
    simp only [isPlain, Bool.not_eq_true', Bool.or_eq_false_iff, beq_eq_false_iff_ne]
    constructor <;> rintro rfl <;> exact absurd digit (by decide)
  have plain : ∀ c ∈ digits ++ fraction, isPlain c = true := by
    refine List.forall_mem_append.mpr ⟨fun c member => digit (areDigits c member), ?_⟩
    cases isFraction with
    | none => simp
    | digits _ areDigits =>
        exact List.forall_mem_cons.mpr ⟨rfl, fun c member => digit (areDigits c member)⟩
  have marks {mark : Char} (marked : mark ∈ ['e', 'E']) : isPlain mark = false := by
    simp only [List.mem_cons, List.not_mem_nil, or_false] at marked
    rcases marked with rfl | rfl <;> rfl
  have stops : exponent.takeWhile isPlain = [] ∧ exponent.dropWhile isPlain = exponent := by
    cases isExponent with
    | none => exact ⟨rfl, rfl⟩
    | positive marked _ _ _ => simp [marks marked]
    | negative marked _ _ => simp [marks marked]
  rw [← List.append_assoc, List.takeWhile_append_of_pos plain, List.dropWhile_append_of_pos plain,
    stops.1, stops.2, List.append_nil]
  exact ⟨rfl, rfl⟩

/-- The digits before and behind the point. -/
theorem point_cut (areDigits : AreDigits digits) (isFraction : Fraction part fraction) :
    (digits ++ fraction).takeWhile (· != '.') = digits ∧
      ((digits ++ fraction).dropWhile (· != '.')).drop 1 = part := by
  have plain : ∀ c ∈ digits, (c != '.') = true := by
    intro c member
    rw [bne_iff_ne]
    rintro rfl
    exact absurd (areDigits _ member) (by decide)
  rw [List.takeWhile_append_of_pos plain, List.dropWhile_append_of_pos plain]
  cases isFraction with
  | none => simp
  | digits _ _ => simp

end

/-- Every way to write a number is read as that number. -/
theorem readChars?_of_written {d : Decimal} {text : List Char} (written : IsWritten d text) :
    readChars? text = some d := by
  cases written with
  | @digits negative digits part fraction exponent power filled areDigits isFraction isExponent =>
      have numeric : ∀ c ∈ minus negative ++ (digits ++ (fraction ++ exponent)), IsNumeric c := by
        refine List.forall_mem_append.mpr ⟨fun c member => .inr ?_, List.forall_mem_append.mpr
          ⟨fun c member => .inl (areDigits c member), List.forall_mem_append.mpr
            ⟨numeric_fraction isFraction, numeric_exponent isExponent⟩⟩⟩
        cases negative with
        | true =>
            rw [List.mem_singleton.mp member]
            decide
        | false => cases member
      obtain ⟨mantissa, marked⟩ := mantissa_cut areDigits isFraction isExponent
      obtain ⟨whole, behind⟩ := point_cut areDigits isFraction
      have digitsOnly : (digits ++ part).all Char.isDigit = true := by
        refine List.all_eq_true.mpr (areDigits_append.mpr ⟨areDigits, ?_⟩)
        cases isFraction with
        | none => simp [AreDigits]
        | digits _ areDigits => exact areDigits
      have some_digits : (digits ++ part).isEmpty = false := by simp [filled]
      unfold readChars?
      simp only [plainDigits_of_numeric numeric, splitSign_minus filled areDigits, mantissa, marked,
        whole, behind, digitsOnly, some_digits, Bool.not_false, and_self, guard, if_true]
      cases isExponent with
      | none => rfl
      | @positive mark plus run _ signed some_power isPower =>
          have unsigned := splitSign_of_digits some_power isPower []
          rw [List.append_nil] at unsigned
          have sign : plus = [] ∨ plus = ['+'] := by simpa using signed
          have cut : splitSign (plus ++ run) = (false, run) := by
            rcases sign with rfl | rfl
            · exact unsigned
            · rfl
          simp [cut, some_power, List.all_eq_true.mpr isPower]
      | @negative mark run _ some_power isPower =>
          have cut : splitSign ('-' :: run) = (true, run) := rfl
          simp [cut, some_power, List.all_eq_true.mpr isPower]

/-- Nothing of a number is lost in its text. -/
@[simp] theorem read?_text (d : Decimal) : read? d.text = some d := by
  unfold read? text
  rw [String.toList_ofList]
  exact readChars?_of_written d.isWritten_chars

/-- A number with a trailing zero and an exponent is read back as it was. -/
example : (Decimal.mk true 120 (-9)).text = "-1.20E-7" ∧
    read? "-1.20E-7" = some ⟨true, 120, -9⟩ := by decide +kernel

end Decimal

namespace DecimalText

@[simp] theorem toDecimal_ofDecimal (d : Decimal) : (ofDecimal d).toDecimal = d := by
  simp [toDecimal, ofDecimal]

end DecimalText

end PlanCycle.Number
