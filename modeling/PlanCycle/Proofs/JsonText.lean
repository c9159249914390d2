/-
Module: PlanCycle.Proofs.JsonText
Purpose: The texts that a JSON value may be written as.
Main exports:
  Json.Spells, Json.Numeral, Json.Writes, Json.IsText, Json.Writes.head, Json.Writes.isPrintable
-/
import Mathlib.Data.Bool.AllAny
import PlanCycle.Json.Reading
import PlanCycle.Proofs.Numerals

namespace PlanCycle.Json

open Number

/-!
The grammar below is that of JSON and not shaped after the reader: whoever writes a value may put
space between its tokens and may write each character of a text as it stands or escaped.
-/

/-! ### The grammar -/

/-- Space that may stand between two tokens. -/
def IsGap (gap : List Char) : Prop :=
  ∀ c ∈ gap, isSpace c = true

theorem isGap_nil : IsGap [] := by
  intro c member
  cases member

/-- The letters that stand for a character after a backslash. -/
def shortEscapes : List (Char × Char) :=
  [('"', '"'), ('\\', '\\'), ('/', '/'), ('b', '\x08'), ('f', '\x0C'), ('n', '\n'), ('r', '\r'),
    ('t', '\t')]

/-- Four hexadecimal digits that stand for a code unit. -/
inductive CodeUnit : Nat → List Char → Prop where
  | digits {a b c d : Char} {first second third fourth : Nat} :
      hexValue? a = some first → hexValue? b = some second → hexValue? c = some third →
      hexValue? d = some fourth →
      CodeUnit (4096 * first + 256 * second + 16 * third + fourth) [a, b, c, d]

/-- `Spells text written`: between two quotes a text may be written so.  A character stands for
itself unless it is a control character, a quote or a backslash; each may be escaped, and one beyond
the basic plane is escaped as a pair of code units. -/
inductive Spells : List Char → List Char → Prop where
  | nil : Spells [] []
  | plain {c : Char} {text written : List Char} :
      32 ≤ c.toNat → c ≠ '"' → c ≠ '\\' → Spells text written → Spells (c :: text) (c :: written)
  | short {c letter : Char} {text written : List Char} :
      (letter, c) ∈ shortEscapes → Spells text written →
      Spells (c :: text) ('\\' :: letter :: written)
  | unit {c : Char} {digits text written : List Char} :
      CodeUnit c.toNat digits → Spells text written →
      Spells (c :: text) ('\\' :: 'u' :: (digits ++ written))
  | pair {c : Char} {high low text written : List Char} :
      0x10000 ≤ c.toNat → CodeUnit (0xD800 + (c.toNat - 0x10000) / 0x400) high →
      CodeUnit (0xDC00 + (c.toNat - 0x10000) % 0x400) low → Spells text written →
      Spells (c :: text) ('\\' :: 'u' :: (high ++ '\\' :: 'u' :: (low ++ written)))

/-- Whether a text holds no character that has to be escaped. -/
def IsUnescaped (text : List Char) : Prop :=
  ∀ c ∈ text, 32 ≤ c.toNat ∧ c ≠ '"' ∧ c ≠ '\\'

instance (text : List Char) : Decidable (IsUnescaped text) :=
  List.decidableBAll _ text

/-- A text without special characters may be written as it stands. -/
theorem spells_plain {text : List Char} (plain : IsUnescaped text) : Spells text text := by
  induction text with
  | nil => exact .nil
  | cons c text ih =>
      obtain ⟨⟨printable, unquoted, unescaped⟩, others⟩ := List.forall_mem_cons.mp plain
      exact .plain printable unquoted unescaped (ih others)

theorem Spells.append {first second one two : List Char} (spells : Spells first one)
    (later : Spells second two) : Spells (first ++ second) (one ++ two) := by
  induction spells with
  | nil => exact later
  | plain printable unquoted unescaped _ ih => exact .plain printable unquoted unescaped ih
  | short member _ ih => exact .short member ih
  | unit isUnit _ ih => simpa using Spells.unit isUnit ih
  | pair beyond isHigh isLow _ ih => simpa using Spells.pair beyond isHigh isLow ih

/-- Whether all characters are digits. -/
def AreDigits (digits : List Char) : Prop :=
  ∀ c ∈ digits, c.isDigit = true

/-- The digits of a whole number: it does not begin with a zero unless it is zero. -/
inductive Whole : List Char → Prop where
  | zero : Whole ['0']
  | digits {c : Char} {digits : List Char} : c ≠ '0' → AreDigits (c :: digits) → Whole (c :: digits)

/-- The digits after the point of a number, and how they are written. -/
inductive Fraction : List Char → List Char → Prop where
  | none : Fraction [] []
  | digits {digits : List Char} : digits ≠ [] → AreDigits digits → Fraction digits ('.' :: digits)

/-- The power of ten of a number, and how it is written. -/
inductive Exponent : Int → List Char → Prop where
  | none : Exponent 0 []
  | positive {mark : Char} {plus digits : List Char} :
      mark ∈ ['e', 'E'] → plus ∈ [[], ['+']] → digits ≠ [] → AreDigits digits →
      Exponent (ofDigits digits) (mark :: (plus ++ digits))
  | negative {mark : Char} {digits : List Char} :
      mark ∈ ['e', 'E'] → digits ≠ [] → AreDigits digits →
      Exponent (-(ofDigits digits : Int)) (mark :: '-' :: digits)

/-- The sign of a number. -/
def minus (negative : Bool) : List Char :=
  if negative then ['-'] else []

/-- Numbers.  One with a fraction or an exponent is the nearest floating-point number. -/
inductive Numeral : Json → List Char → Prop where
  | whole {negative : Bool} {digits : List Char} :
      Whole digits →
      Numeral (.int (if negative then -(ofDigits digits : Int) else ofDigits digits))
        (minus negative ++ digits)
  | decimal {negative : Bool} {digits part fraction exponent : List Char} {power : Int} :
      Whole digits → Fraction part fraction → Exponent power exponent →
      fraction ++ exponent ≠ [] →
      Numeral (.float (.ofDecimal negative (ofDigits (digits ++ part)) (power - part.length)))
        (minus negative ++ (digits ++ (fraction ++ exponent)))

mutual

/-- `Writes value text`: the value may be written so.  The names in an object differ. -/
inductive Writes : Json → List Char → Prop where
  | null : Writes .null ['n', 'u', 'l', 'l']
  | isTrue : Writes (.bool true) ['t', 'r', 'u', 'e']
  | isFalse : Writes (.bool false) ['f', 'a', 'l', 's', 'e']
  | number {value : Json} {text : List Char} : Numeral value text → Writes value text
  | string {text : String} {written : List Char} :
      Spells text.toList written → Writes (.string text) ('"' :: (written ++ ['"']))
  | emptyArray {gap : List Char} : IsGap gap → Writes (.array []) ('[' :: (gap ++ [']']))
  | array {gap text : List Char} {items : List Json} :
      IsGap gap → WritesItems items text → Writes (.array items) ('[' :: (gap ++ text))
  | emptyObject {gap : List Char} :
      IsGap gap → Writes (.object []) ('\x7b' :: (gap ++ ['\x7d']))
  | object {gap text : List Char} {fields : List (String × Json)} :
      IsGap gap → WritesFields fields text → (fields.map (·.1)).Nodup →
      Writes (.object fields) ('\x7b' :: (gap ++ text))

/-- Items with commas between them, and the closing bracket. -/
inductive WritesItems : List Json → List Char → Prop where
  | last {item : Json} {text gap : List Char} :
      Writes item text → IsGap gap → WritesItems [item] (text ++ (gap ++ [']']))
  | more {item : Json} {items : List Json} {text gap next rest : List Char} :
      Writes item text → IsGap gap → IsGap next → WritesItems items rest →
      WritesItems (item :: items) (text ++ (gap ++ ',' :: (next ++ rest)))

/-- A field: its name, a colon and its value. -/
inductive WritesField : String × Json → List Char → Prop where
  | field {name : String} {item : Json} {written before after text : List Char} :
      Spells name.toList written → IsGap before → IsGap after → Writes item text →
      WritesField (name, item) ('"' :: (written ++ '"' :: (before ++ ':' :: (after ++ text))))

/-- Fields with commas between them, and the closing brace. -/
inductive WritesFields : List (String × Json) → List Char → Prop where
  | last {field : String × Json} {text gap : List Char} :
      WritesField field text → IsGap gap → WritesFields [field] (text ++ (gap ++ ['\x7d']))
  | more {field : String × Json} {fields : List (String × Json)} {text gap next rest : List Char} :
      WritesField field text → IsGap gap → IsGap next → WritesFields fields rest →
      WritesFields (field :: fields) (text ++ (gap ++ ',' :: (next ++ rest)))

end

/-- A text that holds a value, with nothing but space around it. -/
inductive IsText : Json → List Char → Prop where
  | spaced {value : Json} {before text after : List Char} :
      IsGap before → Writes value text → IsGap after → IsText value (before ++ (text ++ after))

theorem Writes.isText {value : Json} {text : List Char} (writes : Writes value text) :
    IsText value text := by
  simpa using IsText.spaced isGap_nil writes isGap_nil

/-! ### How a text begins -/

namespace Whole

variable {run : List Char}

theorem areDigits (whole : Whole run) : AreDigits run := by
  cases whole with
  | zero =>
      intro c member
      rw [List.mem_singleton.mp member]
      rfl
  | digits _ areDigits => exact areDigits

theorem head (whole : Whole run) : ∃ c tail, run = c :: tail ∧ c.isDigit = true := by
  cases whole with
  | zero => exact ⟨'0', [], rfl, rfl⟩
  | digits _ areDigits => exact ⟨_, _, rfl, areDigits _ List.mem_cons_self⟩

end Whole

theorem Numeral.head {number : Json} {text : List Char} (numeral : Numeral number text) :
    ∃ c tail, text = c :: tail ∧ (c = '-' ∨ c.isDigit = true) := by
  cases numeral with
  | @whole negative run whole =>
      obtain ⟨c, tail, rfl, digit⟩ := whole.head
      cases negative with
      | true => exact ⟨'-', _, rfl, .inl rfl⟩
      | false => exact ⟨c, _, rfl, .inr digit⟩
  | @decimal negative run part fraction exponent power whole _ _ _ =>
      obtain ⟨c, tail, rfl, digit⟩ := whole.head
      cases negative with
      | true => exact ⟨'-', _, rfl, .inl rfl⟩
      | false => exact ⟨c, _, rfl, .inr digit⟩

/-- No number begins like a text, an array or an object. -/
theorem numeral_ne {c mark : Char} (numeral : c = '-' ∨ c.isDigit = true)
    (member : mark ∈ ['"', '[', ']', '\x7b', ' ', '\t', '\n', '\r']) : c ≠ mark := by
  have none : ∀ mark ∈ ['"', '[', ']', '\x7b', ' ', '\t', '\n', '\r'],
      '-' ≠ mark ∧ mark.isDigit = false := List.all_iff_forall_prop.mp (by decide)
  obtain ⟨sign, digit⟩ := none mark member
  rintro rfl
  rcases numeral with rfl | isDigit
  · exact sign rfl
  · rw [digit] at isDigit
    cases isDigit

/-- A value begins with a character that is neither space nor the end of an array. -/
theorem Writes.head {value : Json} {text : List Char} (writes : Writes value text) :
    ∃ c tail, text = c :: tail ∧ isSpace c = false ∧ c ≠ ']' := by
  cases writes with
  | number numeral =>
      obtain ⟨c, tail, rfl, first⟩ := numeral.head
      have blank : ∀ mark ∈ [' ', '\t', '\n', '\r'], c ≠ mark := fun mark member =>
        numeral_ne first (List.mem_append_right ['"', '[', ']', '\x7b'] member)
      simp only [List.mem_cons, List.not_mem_nil, or_false, forall_eq_or_imp, forall_eq] at blank
      exact ⟨c, tail, rfl, by simp [isSpace, blank], numeral_ne first (by decide)⟩
  | _ => exact ⟨_, _, rfl, rfl, by decide⟩

theorem WritesItems.head {items : List Json} {text : List Char} (writes : WritesItems items text) :
    ∃ c tail, text = c :: tail ∧ isSpace c = false ∧ c ≠ ']' := by
  cases writes with
  | last item _ | more item _ _ _ =>
      obtain ⟨c, tail, rfl, first⟩ := item.head
      exact ⟨c, _, rfl, first⟩

theorem WritesFields.head {fields : List (String × Json)} {text : List Char}
    (writes : WritesFields fields text) : ∃ tail, text = '"' :: tail := by
  cases writes with
  | last field _ | more field _ _ _ =>
      cases field
      exact ⟨_, rfl⟩

theorem Writes.ne_nil {value : Json} {text : List Char} (writes : Writes value text) :
    text ≠ [] := by
  obtain ⟨c, tail, rfl, -⟩ := writes.head
  exact List.cons_ne_nil c tail

theorem WritesItems.ne_nil {items : List Json} {text : List Char}
    (writes : WritesItems items text) : text ≠ [] := by
  obtain ⟨c, tail, rfl, -⟩ := writes.head
  exact List.cons_ne_nil c tail

theorem WritesFields.ne_nil {fields : List (String × Json)} {text : List Char}
    (writes : WritesFields fields text) : text ≠ [] := by
  obtain ⟨tail, rfl⟩ := writes.head
  exact List.cons_ne_nil '"' tail

/-! ### The characters of a text -/

/-- Whether a text holds no control characters but space. -/
def IsPrintable (text : List Char) : Prop :=
  ∀ c ∈ text, 32 ≤ c.toNat ∨ isSpace c = true

@[simp] theorem isPrintable_nil : IsPrintable [] := by
  intro c member
  cases member

@[simp] theorem isPrintable_cons {c : Char} {text : List Char} :
    IsPrintable (c :: text) ↔ (32 ≤ c.toNat ∨ isSpace c = true) ∧ IsPrintable text :=
  List.forall_mem_cons

@[simp] theorem isPrintable_append {first second : List Char} :
    IsPrintable (first ++ second) ↔ IsPrintable first ∧ IsPrintable second :=
  List.forall_mem_append

theorem IsGap.isPrintable {gap : List Char} (isGap : IsGap gap) : IsPrintable gap :=
  fun c member => .inr (isGap c member)

theorem AreDigits.isPrintable {digits : List Char} (areDigits : AreDigits digits) :
    IsPrintable digits := by
  intro c member
  have code := Text.isAsciiDigit_iff.mp (areDigits c member)
  exact .inl (by omega)

theorem code_of_hexValue? {c : Char} {digit : Nat} (found : hexValue? c = some digit) :
    32 ≤ c.toNat := by
  refine Nat.le_of_not_lt fun control => ?_
  have none : ∀ code < 32, hexValue? (Char.ofNat code) = none := by decide
  rw [← Char.ofNat_toNat c, none c.toNat control] at found
  cases found

theorem CodeUnit.isPrintable {unit : Nat} {digits : List Char} (isUnit : CodeUnit unit digits) :
    IsPrintable digits := by
  obtain ⟨first, second, third, fourth⟩ := isUnit
  simp [code_of_hexValue? first, code_of_hexValue? second, code_of_hexValue? third,
    code_of_hexValue? fourth]

theorem Spells.isPrintable {text written : List Char} (spells : Spells text written) :
    IsPrintable written := by
  induction spells with
  | nil => simp
  | plain printable _ _ _ ih => simp [printable, ih]
  | short member _ ih =>
      have letters : ∀ escape ∈ shortEscapes, 32 ≤ escape.1.toNat :=
        List.all_iff_forall_prop.mp (by decide)
      simp [letters _ member, ih]
  | unit isUnit _ ih => simp [isUnit.isPrintable, ih]
  | pair _ isHigh isLow _ ih => simp [isHigh.isPrintable, isLow.isPrintable, ih]

theorem Numeral.isPrintable {number : Json} {text : List Char} (numeral : Numeral number text) :
    IsPrintable text := by
  have sign : ∀ negative, IsPrintable (minus negative) := by
    intro negative
    cases negative <;> simp [minus]
  cases numeral with
  | whole whole => simp [sign, whole.areDigits.isPrintable]
  | decimal whole isFraction isExponent _ =>
      simp only [isPrintable_append, sign, whole.areDigits.isPrintable, true_and]
      constructor
      · cases isFraction with
        | none => simp
        | digits _ areDigits => simp [areDigits.isPrintable]
      · have marks : ∀ mark ∈ ['e', 'E'], 32 ≤ mark.toNat := List.all_iff_forall_prop.mp (by decide)
        have signs : ∀ plus ∈ [[], ['+']], IsPrintable plus := by simp
        cases isExponent with
        | none => simp
        | positive mark plus _ areDigits =>
            simp [marks _ mark, signs _ plus, areDigits.isPrintable]
        | negative mark _ areDigits => simp [marks _ mark, areDigits.isPrintable]

mutual

theorem Writes.isPrintable {value : Json} {text : List Char} (writes : Writes value text) :
    IsPrintable text := by
  match writes with
  | .null => simp
  | .isTrue => simp
  | .isFalse => simp
  | .number numeral => exact numeral.isPrintable
  | .string spells => simp [spells.isPrintable]
  | .emptyArray isGap => simp [isGap.isPrintable]
  | .array isGap items => simp [isGap.isPrintable, items.isPrintable]
  | .emptyObject isGap => simp [isGap.isPrintable]
  | .object isGap fields _ => simp [isGap.isPrintable, fields.isPrintable]

theorem WritesItems.isPrintable {items : List Json} {text : List Char}
    (writes : WritesItems items text) : IsPrintable text := by
  match writes with
  | .last item isGap => simp [item.isPrintable, isGap.isPrintable]
  | .more item isGap isNext items =>
      simp [item.isPrintable, isGap.isPrintable, isNext.isPrintable, items.isPrintable]

theorem WritesField.isPrintable {field : String × Json} {text : List Char}
    (writes : WritesField field text) : IsPrintable text := by
  match writes with
  | .field spells spaced after item =>
      simp [spells.isPrintable, spaced.isPrintable, after.isPrintable, item.isPrintable]

theorem WritesFields.isPrintable {fields : List (String × Json)} {text : List Char}
    (writes : WritesFields fields text) : IsPrintable text := by
  match writes with
  | .last field isGap => simp [field.isPrintable, isGap.isPrintable]
  | .more field isGap isNext fields =>
      simp [field.isPrintable, isGap.isPrintable, isNext.isPrintable, fields.isPrintable]

end

end PlanCycle.Json
