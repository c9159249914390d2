/-
Module: PlanCycle.Proofs.Numerals
Purpose: What number a run of digits is read as, and which runs of digits are none.
Main exports:
  Text.code_of_isDigit, Number.numberOf, Number.baseDigit?_plainDigit, Number.readInt?_digits,
  Number.readInt?_digitsOf
-/
import Mathlib.Data.List.Basic
import PlanCycle.Number.Reading
import PlanCycle.Text.Line

namespace PlanCycle

/-! ### Digits one by one -/

namespace Text

/-- The decimal digits of the scripts other than ASCII lie between the blanks. -/
theorem code_of_script : ∀ start ∈ scriptZeros,
    (178 ≤ start ∧ start + 9 < 5760) ∨ (5760 < start ∧ start + 9 < 8192) ∨
      (8288 ≤ start ∧ start + 9 < 12288) ∨ 12288 < start := by decide

/-- So do the digits without a place value. -/
theorem code_of_placeless : ∀ range ∈ placelessDigitRanges,
    (178 ≤ range.1 ∧ range.2 < 5760) ∨ (5760 < range.1 ∧ range.2 < 8192) ∨
      (8288 ≤ range.1 ∧ range.2 < 12288) ∨ 12288 < range.1 := by decide

theorem isAsciiDigit_iff {c : Char} : c.isDigit = true ↔ 48 ≤ c.toNat ∧ c.toNat ≤ 57 := by
  simp only [Char.isDigit, Bool.and_eq_true, decide_eq_true_eq, ge_iff_le,
    UInt32.le_iff_toNat_le]
  rfl

theorem code_of_isAlphanum {c : Char} (letter : c.isAlphanum = true) :
    (48 ≤ c.toNat ∧ c.toNat ≤ 57) ∨ (65 ≤ c.toNat ∧ c.toNat ≤ 90) ∨
      (97 ≤ c.toNat ∧ c.toNat ≤ 122) := by
  have bounds : ((65 ≤ c.toNat ∧ c.toNat ≤ 90) ∨ (97 ≤ c.toNat ∧ c.toNat ≤ 122)) ∨
      (48 ≤ c.toNat ∧ c.toNat ≤ 57) := by
    have ranges : ((decide (c.val ≥ 65 ∧ c.val ≤ 90) ||
        decide (c.val ≥ 97) && decide (c.val ≤ 122)) ||
          decide (c.val ≥ 48) && decide (c.val ≤ 57)) = true := letter
    simpa [UInt32.le_iff_toNat_le] using ranges
  omega

/-- A digit is no blank and ends no line. -/
theorem visible_digit {c : Char} (digit : c.isDigit = true) :
    isLineBreak c = false ∧ isBlank c = false := by
  have bounds := isAsciiDigit_iff.mp digit
  unfold isLineBreak isBlank
  simp
  omega

/-- A decimal digit has a value below ten, and its code point follows the zero of its script. -/
theorem digitValue?_eq_some {c : Char} {value : Nat} (found : digitValue? c = some value) :
    value < 10 ∧ (c.toNat = 48 + value ∨ ∃ start ∈ scriptZeros, c.toNat = start + value) := by
  unfold digitValue? at found
  split at found
  · split at found
    · rename_i digit
      have code := isAsciiDigit_iff.mp digit
      cases found
      exact ⟨by omega, .inl (by omega)⟩
    · cases found
  · obtain ⟨start, first, rfl⟩ := Option.map_eq_some_iff.mp found
    have inside := List.find?_some first
    simp only [Bool.and_eq_true, decide_eq_true_eq] at inside
    exact ⟨by omega, .inr ⟨start, List.mem_of_find?_eq_some first, by omega⟩⟩

theorem digitValue?_of_ascii {c : Char} (digit : c.isDigit = true) :
    digitValue? c = some (c.toNat - 48) := by
  have code := isAsciiDigit_iff.mp digit
  unfold digitValue?
  rw [if_pos (by omega), if_pos digit]

theorem isDecimal_of_ascii {c : Char} (digit : c.isDigit = true) : isDecimal c = true := by
  rw [isDecimal, digitValue?_of_ascii digit]
  rfl

/-- Digits are not among the blanks, and those other than the ASCII ones are not among the ASCII
characters. -/
theorem code_of_isDigit {c : Char} (digit : isDigit c = true) :
    (48 ≤ c.toNat ∧ c.toNat ≤ 57) ∨ (178 ≤ c.toNat ∧ c.toNat < 5760) ∨
      (5760 < c.toNat ∧ c.toNat < 8192) ∨ (8288 ≤ c.toNat ∧ c.toNat < 12288) ∨
      12288 < c.toNat := by
  unfold isDigit isDecimal at digit
  rcases Bool.or_eq_true_iff.mp digit with decimal | placeless
  · obtain ⟨value, found⟩ := Option.isSome_iff_exists.mp decimal
    obtain ⟨small, ascii | ⟨start, member, same⟩⟩ := digitValue?_eq_some found
    · exact .inl (by omega)
    · have place := code_of_script start member
      omega
  · obtain ⟨range, member, inside⟩ := List.any_eq_true.mp placeless
    have place := code_of_placeless range member
    simp only [Bool.and_eq_true, decide_eq_true_eq] at inside
    omega

theorem isBlank_of_isDigit {c : Char} (digit : isDigit c = true) : isBlank c = false := by
  have code := code_of_isDigit digit
  simp only [isBlank, Bool.or_eq_false_iff, Bool.and_eq_false_iff, decide_eq_false_iff_not,
    beq_eq_false_iff_ne]
  omega

end Text

namespace Number

open Text

/-- A digit of any script as an ASCII digit. -/
def plainDigit (c : Char) : Char :=
  match digitValue? c with
  | some value => Char.ofNat (48 + value)
  | none => c

theorem plainDigits_eq (text : List Char) : plainDigits text = text.map plainDigit := rfl

/-- The values of the ten ASCII digits. -/
theorem baseDigit?_ascii : ∀ value < 10,
    baseDigit? 10 (Char.ofNat (48 + value)) = some value := by decide

/-- A digit without a place value is no digit of any base. -/
theorem hexValue?_of_large {c : Char} (large : 128 ≤ c.toNat) : hexValue? c = none := by
  have digit : c.isDigit = false := by
    rw [Bool.eq_false_iff, ne_eq, isAsciiDigit_iff]
    omega
  have small : ¬('a' ≤ c ∧ c ≤ 'f') := by
    rintro ⟨-, below⟩
    rw [Char.le_def, UInt32.le_iff_toNat_le] at below
    exact absurd (Nat.le_trans large below) (by decide)
  have capital : ¬('A' ≤ c ∧ c ≤ 'F') := by
    rintro ⟨-, below⟩
    rw [Char.le_def, UInt32.le_iff_toNat_le] at below
    exact absurd (Nat.le_trans large below) (by decide)
  unfold hexValue?
  rw [if_neg (by simp [digit]), if_neg small, if_neg capital]

/-- Reading a digit in base ten gives its value; a digit without one is not read. -/
theorem baseDigit?_plainDigit {c : Char} (digit : isDigit c = true) :
    baseDigit? 10 (plainDigit c) = digitValue? c := by
  unfold plainDigit
  cases found : digitValue? c with
  | some value => exact baseDigit?_ascii value (digitValue?_eq_some found).1
  | none =>
      have large : 128 ≤ c.toNat := by
        rcases code_of_isDigit digit with ascii | other
        · rw [digitValue?_of_ascii (isAsciiDigit_iff.mpr ascii)] at found
          cases found
        · omega
      simp only [baseDigit?, hexValue?_of_large large, Option.filter_none]

/-- No digit is read as a mark that may stand in a numeral beside its digits. -/
theorem plainDigit_ne {c mark : Char} (digit : isDigit c = true)
    (marks : mark ∈ ['-', '+', '_']) : plainDigit c ≠ mark := by
  rintro rfl
  unfold plainDigit at marks
  split at marks
  · rename_i value found
    have none : ∀ value < 10, Char.ofNat (48 + value) ∉ ['-', '+', '_'] := by decide
    exact none value (digitValue?_eq_some found).1 marks
  · have codes : (['-', '+', '_'].all fun mark => mark.toNat < 48 || mark.toNat == 95) = true := by
      decide
    have small : c.toNat < 48 ∨ c.toNat = 95 := by simpa using List.all_eq_true.mp codes c marks
    have code := code_of_isDigit digit
    omega

/-! ### Runs of digits -/

/-- The number that a run of decimal digits of any scripts stands for. -/
def numberOf (digits : List Char) : Nat :=
  digits.foldl (fun number c => 10 * number + (digitValue? c).getD 0) 0

/-- Without underscores the digits are read as they stand, if all of them belong to the base. -/
theorem groupedDigits?_of_plain {isMember : Char → Bool} {text : List Char} (filled : text ≠ [])
    (plain : '_' ∉ text) :
    groupedDigits? isMember text = if text.all isMember then some text else none := by
  fun_induction groupedDigits? isMember text with
  | case1 => exact absurd rfl filled
  | case2 c member => simp [member]
  | case3 c other => simp [other]
  | case4 c rest member ih => simp at plain
  | case5 c rest other => simp at plain
  | case6 c rest more single member ih =>
      rw [ih (fun same => more same) fun later => plain (List.mem_cons_of_mem _ later)]
      cases all : rest.all isMember with
      | true => simp [all, member]
      | false => simp [all]
  | case7 c rest more single other => simp [other]

theorem trimOf_of_none {drop : Char → Bool} {text : List Char}
    (kept : ∀ c ∈ text, drop c = false) : trimOf drop text = text := by
  have start : ∀ {text : List Char}, (∀ c ∈ text, drop c = false) → text.dropWhile drop = text := by
    intro text kept
    cases text with
    | nil => rfl
    | cons c rest => exact List.dropWhile_cons_of_neg (by simp [kept c List.mem_cons_self])
  unfold trimOf trimStartOf trimEndOf
  rw [start kept, start (by simpa using kept), List.reverse_reverse]

theorem splitSign_of_unmarked {text : List Char} (minus : '-' ∉ text) (plus : '+' ∉ text) :
    splitSign text = (false, text) := by
  unfold splitSign
  split
  · exact absurd List.mem_cons_self minus
  · exact absurd List.mem_cons_self plus
  · rfl

/-- Numerals in base ten have no mark of their base. -/
theorem dropBaseMark_ten (text : List Char) : dropBaseMark 10 text = text := by
  unfold dropBaseMark
  split
  · rw [if_neg (by simp [baseLetter?])]
  · rfl

theorem all_plainDigit {digits : List Char} (all : ∀ c ∈ digits, isDigit c = true) :
    (digits.map plainDigit).all (fun c => (baseDigit? 10 c).isSome) = digits.all isDecimal := by
  rw [List.all_map, Bool.eq_iff_iff, List.all_eq_true, List.all_eq_true]
  refine forall₂_congr fun c member => ?_
  rw [Function.comp_apply, baseDigit?_plainDigit (all c member), isDecimal]

theorem foldl_plainDigit {digits : List Char} (all : ∀ c ∈ digits, isDigit c = true) :
    (digits.map plainDigit).foldl
      (fun number c => 10 * number + (baseDigit? 10 c).getD 0) 0 = numberOf digits := by
  rw [List.foldl_map]
  refine List.foldl_ext _ _ _ fun number c member => ?_
  rw [baseDigit?_plainDigit (all c member)]

/-- A run of digits is read as its number if each has a place value and there are not too many. -/
theorem readInt?_digits {digits : List Char} (filled : digits ≠ [])
    (all : ∀ c ∈ digits, isDigit c = true) :
    readInt? 10 digits =
      if digits.all isDecimal ∧ digits.length ≤ numeralLimit then some (numberOf digits : Int)
      else none := by
  have visible : ∀ c ∈ digits, isNumberBlank c = false := by
    intro c member
    simp [isNumberBlank, isBlank_of_isDigit (all c member)]
  have unmarked : ∀ mark ∈ ['-', '+', '_'], mark ∉ digits.map plainDigit := by
    intro mark marks member
    obtain ⟨c, among, same⟩ := List.mem_map.mp member
    exact plainDigit_ne (all c among) marks same
  have unsigned : splitSign (digits.map plainDigit) = (false, digits.map plainDigit) :=
    splitSign_of_unmarked (unmarked '-' (by decide)) (unmarked '+' (by decide))
  unfold readInt?
  rw [trimOf_of_none visible, plainDigits_eq, unsigned]
  dsimp only
  rw [dropBaseMark_ten, groupedDigits?_of_plain (by simpa using filled) (unmarked '_' (by decide)),
    all_plainDigit all]
  cases decimal : digits.all isDecimal with
  | false => rfl
  | true =>
      by_cases short : digits.length ≤ numeralLimit
      · simp [short, foldl_plainDigit all, guard]
      · simp [short, guard]

/-! ### Written numbers -/

theorem digitsOf_ne_nil (n : Nat) : digitsOf n ≠ [] := by
  rw [digitsOf, Nat.toString_eq_repr, Nat.toList_repr]
  exact Nat.toDigits_ne_nil

theorem isDigit_of_mem_digitsOf {n : Nat} {c : Char} (member : c ∈ digitsOf n) :
    c.isDigit = true := by
  rw [digitsOf, Nat.toString_eq_repr, Nat.toList_repr] at member
  exact Nat.isDigit_of_mem_toDigits (by decide) (by decide) member

/-- The digits of a number stand for it. -/
theorem numberOf_digitsOf (n : Nat) : numberOf (digitsOf n) = n := by
  have digits : digitsOf n = Nat.toDigits 10 n := by
    rw [digitsOf, Nat.toString_eq_repr, Nat.toList_repr]
  calc numberOf (digitsOf n)
      = (digitsOf n).foldl (fun number c => 10 * number + (c.toNat - '0'.toNat)) 0 := by
        refine List.foldl_ext _ _ _ fun number c member => ?_
        rw [digitValue?_of_ascii (isDigit_of_mem_digitsOf member)]
        rfl
    _ = Nat.ofDigitChars 10 (Nat.toDigits 10 n) 0 := by
        rw [digits]
        rfl
    _ = n := Nat.ofDigitChars_toDigits (by decide) (by decide)

/-- A number is read back from its digits, if there are not too many. -/
theorem readInt?_digitsOf {n : Nat} (short : (digitsOf n).length ≤ numeralLimit) :
    readInt? 10 (digitsOf n) = some (n : Int) := by
  have decimal : ∀ c ∈ digitsOf n, isDecimal c = true :=
    fun c member => isDecimal_of_ascii (isDigit_of_mem_digitsOf member)
  rw [readInt?_digits (digitsOf_ne_nil n) fun c member => by simp [isDigit, decimal c member],
    if_pos ⟨List.all_eq_true.mpr decimal, short⟩, numberOf_digitsOf]

end Number

end PlanCycle
