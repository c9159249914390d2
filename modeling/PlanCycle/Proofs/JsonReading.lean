/-
Module: PlanCycle.Proofs.JsonReading
Purpose: Reading a JSON value inverts writing it, however it was written.
Main exports:
  Json.HasShortNumerals, Json.stringBody_of_spells, Json.scalar_of_numeral, Json.value_of_writes,
  Json.parse_of_isText
-/
import PlanCycle.Proofs.JsonText

namespace PlanCycle.Json

open Number

/-! ### Numbers that are accepted -/

/-- The parts of a value: itself, and those of its items and fields. -/
inductive Part : Json → Json → Prop where
  | self {value : Json} : Part value value
  | item {part item : Json} {items : List Json} :
      item ∈ items → Part part item → Part part (.array items)
  | field {part item : Json} {name : String} {fields : List (String × Json)} :
      (name, item) ∈ fields → Part part item → Part part (.object fields)

/-- Whether no whole number in a value has more digits than are accepted. -/
def HasShortNumerals (value : Json) : Prop :=
  ∀ n : Int, Part (.int n) value → n.natAbs < tenTo numeralLimit

namespace HasShortNumerals

theorem item {items : List Json} (short : HasShortNumerals (.array items)) {item : Json}
    (member : item ∈ items) : item.HasShortNumerals :=
  fun n part => short n (.item member part)

theorem field {fields : List (String × Json)} (short : HasShortNumerals (.object fields))
    {field : String × Json} (member : field ∈ fields) : field.2.HasShortNumerals :=
  fun n part => short n (.field member part)

theorem string (text : String) : HasShortNumerals (.string text) := by
  intro n part
  cases part

theorem int {n : Int} (small : n.natAbs < tenTo numeralLimit) : HasShortNumerals (.int n) := by
  intro m part
  cases part
  exact small

theorem object {fields : List (String × Json)} (each : ∀ field ∈ fields, field.2.HasShortNumerals) :
    HasShortNumerals (.object fields) := by
  intro n part
  cases part with
  | field member part => exact each _ member n part

end HasShortNumerals

/-! ### Space -/

theorem skipSpace_of_visible {c : Char} (visible : isSpace c = false) (text : List Char) :
    skipSpace (c :: text) = c :: text :=
  List.dropWhile_cons_of_neg (by simp [visible])

theorem skipSpace_gap {gap : List Char} (isGap : IsGap gap) (text : List Char) :
    skipSpace (gap ++ text) = skipSpace text :=
  List.dropWhile_append_of_pos isGap

theorem skipSpace_token {gap : List Char} (isGap : IsGap gap) {c : Char}
    (visible : isSpace c = false) (text : List Char) :
    skipSpace (gap ++ c :: text) = c :: text := by
  rw [skipSpace_gap isGap, skipSpace_of_visible visible]

/-! ### Texts in quotes -/

theorem shortEscape?_of_mem {letter c : Char} (member : (letter, c) ∈ shortEscapes) :
    letter ≠ 'u' ∧ shortEscape? letter = some c := by
  have all : ∀ escape ∈ shortEscapes,
      escape.1 ≠ 'u' ∧ shortEscape? escape.1 = some escape.2 :=
    List.all_iff_forall_prop.mp (by decide)
  exact all (letter, c) member

theorem hexFour?_unit {unit : Nat} {digits : List Char} (isUnit : CodeUnit unit digits)
    (rest : List Char) : hexFour? (digits ++ rest) = some (unit, rest) := by
  obtain ⟨first, second, third, fourth⟩ := isUnit
  simp only [List.cons_append, List.nil_append, hexFour?, first, second, third, fourth,
    Option.bind_eq_bind, Option.bind_some, Option.some.injEq, Prod.mk.injEq, and_true]
  omega

/-- A character is none of the code units of a pair. -/
theorem not_paired (c : Char) : c.toNat < 0xD800 ∨ 0xE000 ≤ c.toNat := by
  rcases c.valid with low | ⟨high, -⟩
  · exact .inl low
  · exact .inr high

theorem toNat_lt (c : Char) : c.toNat < 0x110000 := by
  rcases c.valid with low | ⟨-, high⟩
  · exact Nat.lt_trans low (by decide)
  · exact high

theorem pairedUnit_single (c : Char) (rest : List Char) :
    pairedUnit c.toNat rest = (.char c, rest) := by
  have apart := not_paired c
  unfold pairedUnit
  rw [if_neg (by omega), if_neg (by omega), Char.ofNat_toNat]

theorem pairedUnit_halves {unit low : Nat} {text rest : List Char}
    (isHigh : 0xD800 ≤ unit ∧ unit < 0xDC00) (isLow : 0xDC00 ≤ low ∧ low < 0xE000)
    (found : hexFour? text = some (low, rest)) :
    pairedUnit unit ('\\' :: 'u' :: text) =
      (.char (Char.ofNat (0x10000 + (unit - 0xD800) * 0x400 + (low - 0xDC00))), rest) := by
  simp [pairedUnit, isHigh, found, isLow]

/-- The halves of a pair are put together to the character. -/
theorem pairedUnit_pair {c : Char} (beyond : 0x10000 ≤ c.toNat) {low : List Char}
    (isLow : CodeUnit (0xDC00 + (c.toNat - 0x10000) % 0x400) low) (rest : List Char) :
    pairedUnit (0xD800 + (c.toNat - 0x10000) / 0x400) ('\\' :: 'u' :: (low ++ rest)) =
      (.char c, rest) := by
  have below := toNat_lt c
  have whole : 0x10000 + (0xD800 + (c.toNat - 0x10000) / 0x400 - 0xD800) * 0x400 +
      (0xDC00 + (c.toNat - 0x10000) % 0x400 - 0xDC00) = c.toNat := by omega
  calc pairedUnit (0xD800 + (c.toNat - 0x10000) / 0x400) ('\\' :: 'u' :: (low ++ rest))
    _ = (.char (Char.ofNat (0x10000 + (0xD800 + (c.toNat - 0x10000) / 0x400 - 0xD800) * 0x400 +
          (0xDC00 + (c.toNat - 0x10000) % 0x400 - 0xDC00))), rest) :=
        pairedUnit_halves (by omega) (by omega) (hexFour?_unit isLow rest)
    _ = (.char c, rest) := by rw [whole, Char.ofNat_toNat]

/-- An escaped code unit, or a pair of them, is read as its letter. -/
theorem stringBody_unit {fuel unit : Nat} {letter : Letter} {text after rest last : List Char}
    {found : List Letter} (digits : hexFour? text = some (unit, after))
    (paired : pairedUnit unit after = (letter, rest))
    (read : stringBody fuel rest = .ok (found, last)) :
    stringBody (fuel + 1) ('\\' :: 'u' :: text) = .ok (letter :: found, last) := by
  rw [stringBody.eq_4, digits]
  dsimp only
  rw [paired]
  dsimp only
  rw [read]
  rfl

/-- What is written between quotes is read as the text. -/
theorem stringBody_of_spells {text written : List Char} (spells : Spells text written)
    {fuel : Nat} (enough : written.length < fuel) (rest : List Char) :
    stringBody fuel (written ++ '"' :: rest) = .ok (text.map .char, rest) := by
  induction fuel generalizing text written with
  | zero => exact absurd enough (Nat.not_lt_zero _)
  | succ fuel ih =>
      cases spells with
      | nil => rfl
      | plain printable unquoted unescaped later =>
          have read := ih later (by simpa using enough)
          have kept : ¬(_ < 32 ∨ _) := not_or.mpr ⟨Nat.not_lt.mpr printable, unescaped⟩
          rw [List.cons_append, stringBody.eq_6 _ _ _ unquoted (fun _ same _ => unescaped same)
            fun _ _ same _ => unescaped same, if_neg kept, read]
          rfl
      | short member later =>
          obtain ⟨short, stands⟩ := shortEscape?_of_mem member
          have read := ih later (by simp only [List.length_cons] at enough; omega)
          rw [List.cons_append, List.cons_append, stringBody.eq_5 _ _ _ short, stands]
          dsimp only
          rw [read]
          rfl
      | unit isUnit later =>
          have read := ih later (by
            simp only [List.length_cons, List.length_append] at enough; omega)
          rw [List.cons_append, List.cons_append, List.append_assoc]
          exact stringBody_unit (hexFour?_unit isUnit _) (pairedUnit_single _ _) read
      | @pair c high low text written beyond isHigh isLow later =>
          have read := ih later (by
            simp only [List.length_cons, List.length_append] at enough; omega)
          have paired := pairedUnit_pair beyond isLow (written ++ '"' :: rest)
          have spread : '\\' :: 'u' :: (high ++ '\\' :: 'u' :: (low ++ written)) ++ '"' :: rest =
              '\\' :: 'u' :: (high ++ '\\' :: 'u' :: (low ++ (written ++ '"' :: rest))) := by
            simp
          rw [spread]
          exact stringBody_unit (hexFour?_unit isHigh _) paired read

theorem stringBody_quoted {text written : List Char} (spells : Spells text written)
    (rest : List Char) :
    stringBody ((written ++ '"' :: rest).length + 1) (written ++ '"' :: rest) =
      .ok (text.map .char, rest) :=
  stringBody_of_spells spells
    (Nat.lt_succ_of_le (List.sublist_append_left written _).length_le) rest

/-! ### Numbers -/

/-- Whether a run of digits does not go on. -/
def NoDigit (rest : List Char) : Prop :=
  ∀ c ∈ rest.head?, c.isDigit = false

/-- Whether a number does not go on. -/
def NoNumeral (rest : List Char) : Prop :=
  ∀ c ∈ rest.head?, c.isDigit = false ∧ c ∉ ['.', 'e', 'E']

theorem NoNumeral.noDigit {rest : List Char} (stops : NoNumeral rest) : NoDigit rest :=
  fun c first => (stops c first).1

theorem digits_run {run : List Char} (areDigits : AreDigits run) {rest : List Char}
    (stops : NoDigit rest) : digits (run ++ rest) = (run, rest) := by
  unfold digits
  rw [List.takeWhile_append_of_pos areDigits, List.dropWhile_append_of_pos areDigits]
  cases rest with
  | nil => simp
  | cons c rest =>
      have stop : c.isDigit = false := stops c rfl
      simp [stop]

theorem fraction_of_written {part written : List Char} (isFraction : Fraction part written)
    {rest : List Char} (stops : NoDigit rest) (noPoint : rest.head? ≠ some '.') :
    fraction (written ++ rest) = (part, rest) := by
  cases isFraction with
  | none =>
      rw [List.nil_append]
      unfold fraction
      split
      · exact absurd rfl noPoint
      · rfl
  | digits filled areDigits =>
      simp [fraction, digits_run areDigits stops, filled]

theorem exponent?_of_none {rest : List Char} (stops : NoNumeral rest) :
    exponent? rest = none := by
  cases rest with
  | nil => rfl
  | cons c rest =>
      have stop := (stops c rfl).2
      simp only [List.mem_cons, List.not_mem_nil, or_false, not_or] at stop
      simp [exponent?, stop.2.1, stop.2.2]

/-- A run of digits has no sign before it. -/
theorem unsigned_run {run : List Char} (filled : run ≠ []) (areDigits : AreDigits run) :
    ∃ c tail, run = c :: tail ∧ c ≠ '-' ∧ c ≠ '+' := by
  cases run with
  | nil => exact absurd rfl filled
  | cons c tail =>
      have digit := areDigits c List.mem_cons_self
      refine ⟨c, tail, rfl, ?_, ?_⟩ <;>
        · rintro rfl
          exact absurd digit (by decide)

theorem exponent?_of_written {power : Int} {written : List Char}
    (isExponent : Exponent power written) (filled : written ≠ []) {rest : List Char}
    (stops : NoDigit rest) : exponent? (written ++ rest) = some (power, rest) := by
  cases isExponent with
  | none => exact absurd rfl filled
  | @positive mark plus run marked signed some_digits areDigits =>
      have letter : mark = 'e' ∨ mark = 'E' := by simpa using marked
      have signs : plus = [] ∨ plus = ['+'] := by simpa using signed
      have cut := digits_run areDigits stops
      obtain ⟨c, tail, rfl, noMinus, noPlus⟩ := unsigned_run some_digits areDigits
      rcases signs with rfl | rfl
      · rw [List.cons_append] at cut
        simp only [exponent?, List.nil_append, List.cons_append, letter, if_true]
        split
        · rename_i same
          exact absurd (List.cons.inj same).1 noMinus
        · rename_i same
          exact absurd (List.cons.inj same).1 noPlus
        · simp [cut]
      · rw [List.cons_append] at cut
        simp [exponent?, letter, cut]
  | @negative mark run marked some_digits areDigits =>
      have letter : mark = 'e' ∨ mark = 'E' := by simpa using marked
      have cut := digits_run areDigits stops
      simp [exponent?, letter, cut, some_digits]

/-- What follows a whole number in a numeral is neither a digit nor a point. -/
theorem Exponent.stops {power : Int} {written : List Char} (isExponent : Exponent power written)
    {rest : List Char} (stops : NoNumeral rest) :
    NoDigit (written ++ rest) ∧ (written ++ rest).head? ≠ some '.' := by
  have marks : ∀ mark ∈ ['e', 'E'], mark.isDigit = false ∧ mark ≠ '.' :=
    List.all_iff_forall_prop.mp (by decide)
  have marked : ∀ {mark : Char} (tail : List Char), mark ∈ ['e', 'E'] →
      NoDigit (mark :: tail) ∧ (mark :: tail).head? ≠ some '.' := by
    intro mark tail member
    obtain ⟨digit, point⟩ := marks mark member
    refine ⟨?_, by simpa using point⟩
    rintro c first
    obtain rfl : mark = c := by simpa using first
    exact digit
  cases isExponent with
  | none =>
      refine ⟨stops.noDigit, fun point => ?_⟩
      exact absurd (stops '.' point).2 (by decide)
  | positive mark _ _ _ => exact marked _ mark
  | negative mark _ _ => exact marked _ mark

theorem Fraction.stops {part written : List Char} (isFraction : Fraction part written)
    {rest : List Char} (stops : NoDigit rest) : NoDigit (written ++ rest) := by
  cases isFraction with
  | none => exact stops
  | digits _ _ =>
      rintro c first
      obtain rfl : '.' = c := by simpa using first
      rfl

namespace Whole

variable {run : List Char}

/-- Digits make a number at least as large as the power of ten that they shift it by. -/
theorem le_foldl (digits : List Char) (start : Nat) :
    start * tenTo digits.length ≤
      digits.foldl (fun value c => 10 * value + (c.toNat - 48)) start := by
  induction digits generalizing start with
  | nil => simp [tenTo]
  | cons c digits ih =>
      calc start * tenTo (digits.length + 1)
        _ = 10 * start * tenTo digits.length := by rw [tenTo_succ]; ac_rfl
        _ ≤ (10 * start + (c.toNat - 48)) * tenTo digits.length :=
            Nat.mul_le_mul_right _ (Nat.le_add_right _ _)
        _ ≤ _ := ih _

/-- A number below a power of ten has no more digits than that. -/
theorem length_le (whole : Whole run) {limit : Nat} (some_digits : 0 < limit)
    (small : ofDigits run < tenTo limit) : run.length ≤ limit := by
  cases whole with
  | zero => exact some_digits
  | @digits c tail other areDigits =>
      have code := Text.isAsciiDigit_iff.mp (areDigits c List.mem_cons_self)
      have positive : 1 ≤ c.toNat - 48 := by
        have differs : c.toNat ≠ '0'.toNat := fun same => other (Char.toNat_inj.mp same)
        have zero : '0'.toNat = 48 := rfl
        omega
      have large : tenTo tail.length ≤ ofDigits (c :: tail) := by
        calc tenTo tail.length
          _ ≤ (10 * 0 + (c.toNat - 48)) * tenTo tail.length :=
              Nat.le_mul_of_pos_left _ (by omega)
          _ ≤ ofDigits (c :: tail) := le_foldl tail _
      have shorter : ¬limit ≤ tail.length := fun le =>
        Nat.not_lt.mpr (Nat.le_trans (tenTo_mono le) large) small
      exact Nat.not_le.mp shorter

end Whole

/-- The digits before the point are read up to their end. -/
theorem unsigned_of_whole {run : List Char} (whole : Whole run) {rest part after : List Char}
    (stops : NoDigit rest) (cut : fraction rest = (part, after)) (negative : Bool) :
    unsigned negative (run ++ rest) =
      match exponent? after with
      | none =>
        if part.isEmpty then
          if numeralLimit < run.length then .error .longNumeral
          else .ok (.int (if negative then -(ofDigits run : Int) else ofDigits run), after)
        else .ok (.float (.ofDecimal negative (ofDigits (run ++ part)) (-part.length)), after)
      | some (power, rest) =>
        .ok (.float (.ofDecimal negative (ofDigits (run ++ part)) (power - part.length)),
          rest) := by
  have all := digits_run whole.areDigits stops
  cases whole with
  | zero => simp only [unsigned, List.cons_append, List.nil_append, cut]; rfl
  | @digits c tail other areDigits =>
      unfold unsigned
      split
      rename_i shape
      split at shape
      · rename_i same
        exact absurd (List.cons.inj same).1 other
      · rw [all] at shape
        cases shape
        simp only [cut]
        rfl

/-- After its sign a number is none of the words that are values. -/
theorem scalar_minus (negative : Bool) {c : Char} (digit : c.isDigit = true) (text : List Char) :
    scalar (minus negative ++ c :: text) = unsigned negative (c :: text) := by
  have other : ∀ mark ∈ ['n', 't', 'f', 'N', 'I', '-'], mark ≠ c := by
    rintro mark member rfl
    have none : ∀ mark ∈ ['n', 't', 'f', 'N', 'I', '-'], mark.isDigit = false :=
      List.all_iff_forall_prop.mp (by decide)
    rw [none mark member] at digit
    cases digit
  have noWord : words.findSome? (fun entry =>
      (dropExact? entry.1.toList (minus negative ++ c :: text)).map fun rest =>
        (entry.2, rest)) = none := by
    simp only [List.mem_cons, List.not_mem_nil, or_false, forall_eq_or_imp, forall_eq] at other
    obtain ⟨n, t, f, N, I, sign⟩ := other
    cases negative <;> simp [words, minus, dropExact?, n, t, f, N, I, sign]
  unfold scalar
  rw [noWord]
  cases negative with
  | true => rfl
  | false =>
      dsimp only [minus]
      split
      · rename_i same
        exact absurd (List.cons.inj same).1.symm (other '-' (by decide))
      · rfl

theorem scalar_of_numeral {number : Json} {text : List Char} (numeral : Numeral number text)
    (short : number.HasShortNumerals) {rest : List Char} (stops : NoNumeral rest) :
    scalar (text ++ rest) = .ok (number, rest) := by
  cases numeral with
  | @whole negative run whole =>
      have small : ofDigits run < tenTo numeralLimit := by
        have below := short _ .self
        cases negative <;> simpa using below
      have counted := whole.length_le (by decide) small
      have noFraction := fraction_of_written .none stops.noDigit (Exponent.none.stops stops).2
      have read := unsigned_of_whole whole stops.noDigit noFraction negative
      obtain ⟨c, tail, rfl, digit⟩ := whole.head
      rw [List.append_assoc, List.cons_append, scalar_minus negative digit, ← List.cons_append]
      simp only [exponent?_of_none stops, List.isEmpty_nil, if_true] at read
      rw [if_neg (Nat.not_lt.mpr counted)] at read
      exact read
  | @decimal negative run part fraction exponent power whole isFraction isExponent some_more =>
      obtain ⟨noDigit, noPoint⟩ := isExponent.stops stops
      have cut := fraction_of_written isFraction noDigit noPoint
      have read := unsigned_of_whole whole (isFraction.stops noDigit) cut negative
      obtain ⟨c, tail, rfl, digit⟩ := whole.head
      simp only [List.append_assoc, List.cons_append, scalar_minus negative digit] at read ⊢
      rw [read]
      by_cases none : exponent = []
      · subst none
        have filled : part ≠ [] := by
          rintro rfl
          cases isFraction with
          | none => exact some_more rfl
          | digits filled _ => exact filled rfl
        cases isExponent
        rw [List.nil_append, exponent?_of_none stops]
        simp [filled]
      · rw [exponent?_of_written isExponent none stops.noDigit]

/-! ### Values -/

theorem setField_of_new {name : String} {fields : List (String × Json)}
    (new : name ∉ fields.map (·.1)) (item : Json) :
    setField name item fields = fields ++ [(name, item)] := by
  induction fields with
  | nil => rfl
  | cons field fields ih =>
      obtain ⟨other, later⟩ := not_or.mp (List.mem_cons.not.mp new)
      simp [setField, Ne.symm other, ih later]

/-- A comma or a closing bracket ends a number, and so does space. -/
theorem noNumeral_mark (c : Char) (stop : c ∈ [',', ']', '\x7d', ' ', '\t', '\n', '\r'])
    (rest : List Char) : NoNumeral (c :: rest) := by
  have stops : ∀ c ∈ [',', ']', '\x7d', ' ', '\t', '\n', '\r'],
      c.isDigit = false ∧ c ∉ ['.', 'e', 'E'] := List.all_iff_forall_prop.mp (by decide)
  rintro d first
  obtain rfl : c = d := by simpa using first
  exact stops c stop

theorem noNumeral_gap {gap rest : List Char} (isGap : IsGap gap) (stops : NoNumeral rest) :
    NoNumeral (gap ++ rest) := by
  cases gap with
  | nil => exact stops
  | cons c gap =>
      have isSpace := isGap c List.mem_cons_self
      have space : c ∈ [' ', '\t', '\n', '\r'] := by simpa [Json.isSpace, or_assoc] using isSpace
      exact noNumeral_mark c (List.mem_append_right [',', ']', '\x7d'] space) _

theorem value_of_number {fuel : Nat} {c : Char} (numeral : c = '-' ∨ c.isDigit = true)
    (text : List Char) : value (fuel + 1) (c :: text) = scalar (c :: text) := by
  refine value.eq_5 _ _ ?_ ?_ ?_ <;>
    · rintro rest same
      exact numeral_ne numeral (by decide) (List.cons.inj same).1

theorem value_string {fuel : Nat} {text : String} {written : List Char}
    (spells : Spells text.toList written) (rest : List Char) :
    value (fuel + 1) ('"' :: (written ++ '"' :: rest)) = .ok (.string text, rest) := by
  have whole : ofLetters (text.toList.map .char) = .string text := by
    rw [ofLetters_chars, String.ofList_toList]
  rw [value.eq_2, stringBody_quoted spells]
  exact congrArg (fun value => Except.ok (value, rest)) whole

theorem value_emptyArray {fuel : Nat} {gap : List Char} (isGap : IsGap gap) (rest : List Char) :
    value (fuel + 1) ('[' :: (gap ++ ']' :: rest)) = .ok (.array [], rest) := by
  have close : skipSpace (gap ++ ']' :: rest) = ']' :: rest := skipSpace_token isGap rfl rest
  simp only [value.eq_3, close]

theorem value_emptyObject {fuel : Nat} {gap : List Char} (isGap : IsGap gap) (rest : List Char) :
    value (fuel + 1) ('\x7b' :: (gap ++ '\x7d' :: rest)) = .ok (.object [], rest) := by
  have close : skipSpace (gap ++ '\x7d' :: rest) = '\x7d' :: rest := skipSpace_token isGap rfl rest
  simp only [value.eq_4, close]

theorem value_array {fuel : Nat} {c : Char} {gap text rest : List Char} {found : List Json}
    (isGap : IsGap gap) (visible : isSpace c = false) (notClosed : c ≠ ']')
    (read : items fuel (c :: text) = .ok (found, rest)) :
    value (fuel + 1) ('[' :: (gap ++ c :: text)) = .ok (.array found, rest) := by
  rw [value.eq_3, skipSpace_token isGap visible]
  split
  · rename_i same
    exact absurd (List.cons.inj same).1 notClosed
  · rw [read]
    rfl

theorem value_object {fuel : Nat} {gap text rest : List Char} {found : List (String × Json)}
    (isGap : IsGap gap) (read : fields fuel [] ('"' :: text) = .ok (found, rest)) :
    value (fuel + 1) ('\x7b' :: (gap ++ '"' :: text)) = .ok (.object found, rest) := by
  rw [value.eq_4, skipSpace_token isGap rfl]
  split
  · rename_i same
    exact absurd (List.cons.inj same).1 (by decide)
  · rw [read]
    rfl

theorem items_last {fuel : Nat} {text gap rest : List Char} {item : Json} (isGap : IsGap gap)
    (read : value fuel text = .ok (item, gap ++ ']' :: rest)) :
    items (fuel + 1) text = .ok ([item], rest) := by
  have close : skipSpace (gap ++ ']' :: rest) = ']' :: rest := skipSpace_token isGap rfl rest
  simp only [items.eq_2, read, bind, Except.bind, close]

theorem items_more {fuel : Nat} {text gap after rest : List Char} {item : Json}
    {found : List Json} (isGap : IsGap gap)
    (read : value fuel text = .ok (item, gap ++ ',' :: after))
    (later : items fuel (skipSpace after) = .ok (found, rest)) :
    items (fuel + 1) text = .ok (item :: found, rest) := by
  have comma : skipSpace (gap ++ ',' :: after) = ',' :: after := skipSpace_token isGap rfl after
  simp only [items.eq_2, read, bind, Except.bind, comma, later]

/-- What is read after a field: the end of its object, or a comma and further fields. -/
def fieldsAfter (fuel : Nat) (known : List (String × Json)) (text : List Char) :
    Except Fault (List (String × Json) × List Char) :=
  match skipSpace text with
  | '\x7d' :: rest => .ok (known, rest)
  | ',' :: rest => fields fuel known (skipSpace rest)
  | _ => .error .malformed

theorem fieldsAfter_close (fuel : Nat) (known : List (String × Json)) {gap : List Char}
    (isGap : IsGap gap) (rest : List Char) :
    fieldsAfter fuel known (gap ++ '\x7d' :: rest) = .ok (known, rest) := by
  have close : skipSpace (gap ++ '\x7d' :: rest) = '\x7d' :: rest := skipSpace_token isGap rfl rest
  simp only [fieldsAfter, close]

theorem fieldsAfter_comma (fuel : Nat) (known : List (String × Json)) {gap next : List Char}
    (isGap : IsGap gap) (isNext : IsGap next) (text : List Char) :
    fieldsAfter fuel known (gap ++ ',' :: (next ++ '"' :: text)) =
      fields fuel known ('"' :: text) := by
  have comma : skipSpace (gap ++ ',' :: (next ++ '"' :: text)) = ',' :: (next ++ '"' :: text) :=
    skipSpace_token isGap rfl _
  have begins : skipSpace (next ++ '"' :: text) = '"' :: text := skipSpace_token isNext rfl text
  simp only [fieldsAfter, comma, begins]

theorem fields_field {fuel : Nat} {known : List (String × Json)} {name : String} {item : Json}
    {written before after text last : List Char} (new : name ∉ known.map (·.1))
    (spells : Spells name.toList written) (spaced : IsGap before)
    (begins : skipSpace (after ++ text) = text) (read : value fuel text = .ok (item, last)) :
    fields (fuel + 1) known ('"' :: (written ++ '"' :: (before ++ ':' :: (after ++ text)))) =
      fieldsAfter fuel (known ++ [(name, item)]) last := by
  have named := stringBody_quoted spells (before ++ ':' :: (after ++ text))
  have colon : skipSpace (before ++ ':' :: (after ++ text)) = ':' :: (after ++ text) :=
    skipSpace_token spaced rfl _
  simp only [fields.eq_2, named, bind, Except.bind, colon, begins, read, shownText_chars,
    String.ofList_toList, setField_of_new new]
  rfl

/-- In an object whose names differ, each name is new after the fields before it. -/
theorem new_of_distinct {known later : List (String × Json)} {field : String × Json}
    (distinct : ((known ++ field :: later).map (·.1)).Nodup) : field.1 ∉ known.map (·.1) := by
  rw [List.map_append, List.nodup_append] at distinct
  intro member
  exact distinct.2.2 field.1 member field.1 List.mem_cons_self rfl

theorem exists_fuel {text : List Char} {fuel : Nat} (filled : text ≠ [])
    (enough : text.length ≤ fuel) : ∃ less, fuel = less + 1 :=
  Nat.exists_eq_add_one_of_ne_zero
    (Nat.ne_of_gt (Nat.lt_of_lt_of_le (List.length_pos_iff.mpr filled) enough))

mutual

/-- A value is read from what it is written as, whatever follows. -/
theorem value_of_writes {found : Json} {text : List Char} (writes : Writes found text)
    (short : found.HasShortNumerals) (fuel : Nat) (enough : text.length ≤ fuel) {rest : List Char}
    (stops : NoNumeral rest) : value fuel (text ++ rest) = .ok (found, rest) := by
  obtain ⟨fuel, rfl⟩ := exists_fuel writes.ne_nil enough
  match writes with
  | .null => rfl
  | .isTrue => rfl
  | .isFalse => rfl
  | .number numeral =>
      obtain ⟨c, tail, rfl, first⟩ := numeral.head
      rw [List.cons_append, value_of_number first]
      exact scalar_of_numeral numeral short stops
  | .string spells => simpa using value_string spells rest
  | .emptyArray isGap => simpa using value_emptyArray isGap rest
  | .array isGap items =>
      simp only [List.length_cons, List.length_append] at enough
      have read := items_of_writes items (fun item => short.item) fuel (by omega) rest
      obtain ⟨c, tail, rfl, visible, notClosed⟩ := items.head
      simpa using value_array isGap visible notClosed read
  | .emptyObject isGap => simpa using value_emptyObject isGap rest
  | .object isGap fields distinct =>
      simp only [List.length_cons, List.length_append] at enough
      have read := fields_of_writes fields (fun field => short.field) [] distinct fuel (by omega)
        rest
      obtain ⟨tail, rfl⟩ := fields.head
      simpa using value_object isGap read

/-- So are items, up to the end of their array. -/
theorem items_of_writes {found : List Json} {text : List Char} (writes : WritesItems found text)
    (short : ∀ item ∈ found, item.HasShortNumerals) (fuel : Nat) (enough : text.length ≤ fuel)
    (rest : List Char) : items fuel (text ++ rest) = .ok (found, rest) := by
  obtain ⟨fuel, rfl⟩ := exists_fuel writes.ne_nil enough
  match writes with
  | .last item isGap =>
      simp only [List.length_cons, List.length_append] at enough
      have read := value_of_writes item (short _ List.mem_cons_self) fuel (by omega)
        (noNumeral_gap isGap (noNumeral_mark ']' (by decide) rest))
      simpa using items_last isGap read
  | @WritesItems.more _ _ _ gap next more item isGap isNext items =>
      simp only [List.length_cons, List.length_append] at enough
      obtain ⟨first, others⟩ := List.forall_mem_cons.mp short
      have read := value_of_writes item first fuel (by omega)
        (noNumeral_gap isGap (noNumeral_mark ',' (by decide) (next ++ (more ++ rest))))
      have later := items_of_writes items others fuel (by omega) rest
      obtain ⟨c, tail, rfl, visible, -⟩ := items.head
      have begins := skipSpace_token isNext visible (tail ++ rest)
      have all := items_more isGap read (by rw [List.cons_append, begins]; exact later)
      simpa using all

/-- A field is read from what it is written as. -/
theorem field_of_writes {field : String × Json} {text : List Char}
    (writes : WritesField field text) (short : field.2.HasShortNumerals)
    {known : List (String × Json)} (new : field.1 ∉ known.map (·.1)) (fuel : Nat)
    (enough : text.length ≤ fuel + 1) {last : List Char} (stops : NoNumeral last) :
    fields (fuel + 1) known (text ++ last) = fieldsAfter fuel (known ++ [field]) last := by
  match writes with
  | .field spells spaced after item =>
      simp only [List.length_cons, List.length_append] at enough
      have read := value_of_writes item short fuel (by omega) stops
      obtain ⟨c, tail, rfl, visible, -⟩ := item.head
      have begins := skipSpace_token after visible (tail ++ last)
      simpa using fields_field new spells spaced begins read

/-- Fields are read, up to the end of their object, and stand after those already known. -/
theorem fields_of_writes {found : List (String × Json)} {text : List Char}
    (writes : WritesFields found text) (short : ∀ field ∈ found, field.2.HasShortNumerals)
    (known : List (String × Json)) (distinct : ((known ++ found).map (·.1)).Nodup) (fuel : Nat)
    (enough : text.length ≤ fuel) (rest : List Char) :
    fields fuel known (text ++ rest) = .ok (known ++ found, rest) := by
  obtain ⟨fuel, rfl⟩ := exists_fuel writes.ne_nil enough
  match writes with
  | .last field isGap =>
      simp only [List.length_cons, List.length_append] at enough
      have read := field_of_writes field (short _ List.mem_cons_self) (new_of_distinct distinct)
        fuel (by omega) (noNumeral_gap isGap (noNumeral_mark '\x7d' (by decide) rest))
      rw [fieldsAfter_close fuel _ isGap] at read
      simpa using read
  | @WritesFields.more first _ _ _ next more field isGap isNext later =>
      simp only [List.length_cons, List.length_append] at enough
      obtain ⟨own, others⟩ := List.forall_mem_cons.mp short
      have read := field_of_writes field own (new_of_distinct distinct) fuel (by omega)
        (noNumeral_gap isGap (noNumeral_mark ',' (by decide) (next ++ (more ++ rest))))
      have complete := fields_of_writes later others (known ++ [first]) (by simpa using distinct)
        fuel (by omega) rest
      obtain ⟨tail, rfl⟩ := later.head
      rw [List.cons_append] at complete
      rw [List.cons_append, fieldsAfter_comma fuel _ isGap isNext, complete] at read
      simpa using read

end

/-- **Reading inverts writing.**  A text that holds a value is read as this value, however it was
written, if its whole numbers are not too long. -/
theorem parse_of_isText {found : Json} {text : List Char} (isText : IsText found text)
    (short : found.HasShortNumerals) : parse text = .ok found := by
  obtain ⟨isBefore, writes, isAfter⟩ := isText
  rename_i before text after
  have stops : NoNumeral (after ++ []) := noNumeral_gap isAfter fun _ none => by cases none
  rw [List.append_nil] at stops
  have read := value_of_writes writes short (2 * (before ++ (text ++ after)).length + 1)
    (by simp only [List.length_append]; omega) stops
  have space : skipSpace after = [] := by
    rw [← List.append_nil after, skipSpace_gap isAfter]
    rfl
  obtain ⟨c, tail, rfl, visible, -⟩ := writes.head
  have begins : skipSpace (before ++ (c :: tail ++ after)) = c :: tail ++ after :=
    skipSpace_token isBefore visible (tail ++ after)
  rw [parse, begins, read]
  simp [space, bind, Except.bind]

end PlanCycle.Json
