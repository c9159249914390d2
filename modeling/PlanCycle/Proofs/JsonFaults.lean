/-
Module: PlanCycle.Proofs.JsonFaults
Purpose: What the reader of JSON texts does with any text: it goes on in the text, a numeral is too
  long only where too many digits stand in a row, and only what begins with a brace is an object.
Main exports:
  Json.HasLongRun, Json.ReadsOn, Json.value_readsOn, Json.hasLongRun_of_parse, Json.brace_of_parse
-/
import PlanCycle.Proofs.JsonText

namespace PlanCycle

open Number

namespace Json

/-- Whether more digits than a whole number may have stand in a row. -/
def HasLongRun (text : List Char) : Prop :=
  ∃ run, AreDigits run ∧ numeralLimit < run.length ∧ run <:+: text

theorem HasLongRun.mono {text longer : List Char} (long : HasLongRun text)
    (inside : text <:+: longer) : HasLongRun longer := by
  obtain ⟨run, digits, many, stands⟩ := long
  exact ⟨run, digits, many, stands.trans inside⟩

/-- Whether a reader goes on in its text, and calls a numeral too long only if too many digits
stand in a row. -/
structure ReadsOn {α : Type} (text : List Char) (given : Except Fault (α × List Char)) : Prop where
  suffix : ∀ found rest, given = .ok (found, rest) → rest <:+ text
  long : given = .error .longNumeral → HasLongRun text

namespace ReadsOn

variable {α β : Type} {text longer rest : List Char} {given : Except Fault (α × List Char)}

theorem ok {found : α} (last : rest <:+ text) :
    ReadsOn text (.ok (found, rest) : Except Fault (α × List Char)) where
  suffix := by
    rintro _ _ ⟨⟩
    exact last
  long := nofun

theorem malformed : ReadsOn text (.error .malformed : Except Fault (α × List Char)) :=
  ⟨nofun, nofun⟩

theorem mono (reads : ReadsOn text given) (inside : text <:+ longer) : ReadsOn longer given :=
  ⟨fun found rest same => (reads.suffix found rest same).trans inside,
    fun long => (reads.long long).mono inside.isInfix⟩

theorem bind {next : α × List Char → Except Fault (β × List Char)} (first : ReadsOn text given)
    (later : ∀ found rest, ReadsOn rest (next (found, rest))) : ReadsOn text (given >>= next) := by
  cases given with
  | error fault =>
      refine ⟨nofun, fun long => ?_⟩
      cases long
      exact first.long rfl
  | ok read =>
      obtain ⟨found, rest⟩ := read
      exact (later found rest).mono (first.suffix found rest rfl)

end ReadsOn

theorem skipSpace_suffix (text : List Char) : skipSpace text <:+ text :=
  List.dropWhile_suffix isSpace

theorem hexFour?_suffix {text rest : List Char} {unit : Nat}
    (found : hexFour? text = some (unit, rest)) : rest <:+ text := by
  unfold hexFour? at found
  split at found
  · rename_i a b c d after
    simp only [Option.bind_eq_bind, Option.bind_eq_some_iff] at found
    obtain ⟨_, _, _, _, _, _, _, _, same⟩ := found
    obtain ⟨_, rfl⟩ := Prod.mk.inj (Option.some.inj same)
    exact List.suffix_append [a, b, c, d] after
  · cases found

theorem pairedUnit_suffix (unit : Nat) (text : List Char) : (pairedUnit unit text).2 <:+ text := by
  unfold pairedUnit
  split
  · split
    · rename_i after
      split
      · rename_i read
        split
        · exact (hexFour?_suffix read).trans (List.suffix_append ['\\', 'u'] after)
        · exact List.suffix_rfl
      · exact List.suffix_rfl
    · exact List.suffix_rfl
  split
  · exact List.suffix_rfl
  · exact List.suffix_rfl

/-- In a text between quotes nothing is called a numeral. -/
theorem stringBody_readsOn (fuel : Nat) (text : List Char) : ReadsOn text (stringBody fuel text) := by
  induction fuel generalizing text with
  | zero =>
      rw [stringBody]
      exact .malformed
  | succ fuel ih =>
      have joined (letter : Letter) {rest : List Char} (last : rest <:+ text) :
          ReadsOn text (stringBody fuel rest >>= fun read => .ok (letter :: read.1, read.2)) := by
        refine ReadsOn.mono (ReadsOn.bind (ih rest) ?_) last
        intro found rest
        exact .ok List.suffix_rfl
      unfold stringBody
      split
      · cases ‹_ + 1 = 0›
      · exact .malformed
      · exact .ok (List.suffix_cons _ _)
      · rename_i less rest same
        obtain rfl := Nat.succ.inj same
        split
        · exact .malformed
        · rename_i unit after read
          have last := (pairedUnit_suffix unit after).trans (hexFour?_suffix read)
          exact joined (pairedUnit unit after).1 (last.trans (List.suffix_append ['\\', 'u'] rest))
      · rename_i less c rest _ same
        obtain rfl := Nat.succ.inj same
        split
        · exact .malformed
        · rename_i d _
          exact joined (.char d) (List.suffix_append ['\\', c] rest)
      · rename_i less c rest _ _ _ same
        obtain rfl := Nat.succ.inj same
        split
        · exact .malformed
        · exact joined (.char c) (List.suffix_cons c rest)

/-! ### Numbers -/

theorem fraction_suffix (text : List Char) : (fraction text).2 <:+ text := by
  unfold fraction
  split
  · rename_i rest
    split
    · exact List.suffix_rfl
    · exact (List.dropWhile_suffix Char.isDigit).trans (List.suffix_cons '.' rest)
  · exact List.suffix_rfl

theorem exponent?_suffix {text rest : List Char} {power : Int}
    (found : exponent? text = some (power, rest)) : rest <:+ text := by
  have counted {after : List Char} {value : Int}
      (found : (if (digits after).1.isEmpty then none else some (value, (digits after).2)) =
        some (power, rest)) : rest <:+ after := by
    split at found
    · cases found
    · obtain ⟨_, rfl⟩ := Prod.mk.inj (Option.some.inj found)
      exact List.dropWhile_suffix Char.isDigit
  unfold exponent? at found
  dsimp only at found
  split at found
  · rename_i c after
    split at found
    · have last : rest <:+ after := by
        split at found
        · exact (counted found).trans (List.suffix_cons '-' _)
        · exact (counted found).trans (List.suffix_cons '+' _)
        · exact counted found
      exact last.trans (List.suffix_cons c after)
    · cases found
  · cases found

/-- The digits before a point or an exponent; after a zero there is no further one. -/
def wholeDigits (text : List Char) : List Char × List Char :=
  match text with
  | '0' :: rest => (['0'], rest)
  | _ => digits text

theorem wholeDigits_run (text : List Char) :
    AreDigits (wholeDigits text).1 ∧ (wholeDigits text).1 ++ (wholeDigits text).2 = text := by
  unfold wholeDigits
  split
  · refine ⟨?_, rfl⟩
    intro c member
    rw [List.mem_singleton.mp member]
    rfl
  · refine ⟨?_, List.takeWhile_append_dropWhile⟩
    intro c member
    exact List.all_eq_true.mp List.all_takeWhile c member

theorem unsigned_eq (negative : Bool) (text : List Char) :
    unsigned negative text =
      let whole := (wholeDigits text).1
      let part := fraction (wholeDigits text).2
      if whole.isEmpty then .error .malformed
      else
        match exponent? part.2 with
        | none =>
          if part.1.isEmpty then
            if numeralLimit < whole.length then .error .longNumeral
            else .ok (.int (if negative then -(ofDigits whole : Int) else ofDigits whole), part.2)
          else
            .ok (.float (.ofDecimal negative (ofDigits (whole ++ part.1)) (-part.1.length)), part.2)
        | some (power, rest) =>
          .ok (.float (.ofDecimal negative (ofDigits (whole ++ part.1)) (power - part.1.length)),
            rest) := rfl

theorem unsigned_readsOn (negative : Bool) (text : List Char) :
    ReadsOn text (unsigned negative text) := by
  obtain ⟨areDigits, whole⟩ := wholeDigits_run text
  have parted : (fraction (wholeDigits text).2).2 <:+ text :=
    (fraction_suffix _).trans ⟨_, whole⟩
  rw [unsigned_eq]
  generalize fraction (wholeDigits text).2 = part at parted
  dsimp only
  split
  · exact .malformed
  split
  · split
    · split
      · rename_i many
        exact ⟨nofun, fun _ => ⟨_, areDigits, many, [], (wholeDigits text).2, whole⟩⟩
      · exact .ok parted
    · exact .ok parted
  · rename_i found
    exact .ok ((exponent?_suffix found).trans parted)

theorem dropExact?_suffix {word text rest : List Char} (found : dropExact? word text = some rest) :
    rest <:+ text := by
  induction word generalizing text with
  | nil =>
      cases found
      exact List.suffix_rfl
  | cons letter word ih =>
      cases text with
      | nil => cases found
      | cons c text =>
          unfold dropExact? at found
          split at found
          · exact (ih found).trans (List.suffix_cons c text)
          · cases found

theorem scalar_readsOn (text : List Char) : ReadsOn text (scalar text) := by
  unfold scalar
  dsimp only
  split
  · rename_i found word
    obtain ⟨entry, _, read⟩ := List.exists_of_findSome?_eq_some word
    obtain ⟨rest, dropped, rfl⟩ := Option.map_eq_some_iff.mp read
    exact .ok (dropExact?_suffix dropped)
  · split
    · exact (unsigned_readsOn true _).mono (List.suffix_cons '-' _)
    · exact unsigned_readsOn false text

/-! ### Values -/

mutual

theorem value_readsOn (fuel : Nat) (text : List Char) : ReadsOn text (value fuel text) := by
  cases fuel with
  | zero =>
      rw [value]
      exact .malformed
  | succ fuel =>
      unfold value
      split
      · cases ‹_ + 1 = 0›
      · rename_i less rest same
        refine ((stringBody_readsOn _ rest).mono (List.suffix_cons '"' rest)).bind ?_
        intro found last
        exact .ok List.suffix_rfl
      · rename_i less rest same
        obtain rfl := Nat.succ.inj same
        have inside := (skipSpace_suffix rest).trans (List.suffix_cons '[' rest)
        split
        · rename_i closed
          rw [closed] at inside
          exact .ok ((List.suffix_cons ']' _).trans inside)
        · refine ((items_readsOn fuel _).mono inside).bind ?_
          intro found last
          exact .ok List.suffix_rfl
      · rename_i less rest same
        obtain rfl := Nat.succ.inj same
        have inside := (skipSpace_suffix rest).trans (List.suffix_cons '\x7b' rest)
        split
        · rename_i closed
          rw [closed] at inside
          exact .ok ((List.suffix_cons '\x7d' _).trans inside)
        · refine ((fields_readsOn fuel [] _).mono inside).bind ?_
          intro found last
          exact .ok List.suffix_rfl
      · exact scalar_readsOn _

theorem items_readsOn (fuel : Nat) (text : List Char) : ReadsOn text (items fuel text) := by
  cases fuel with
  | zero =>
      rw [items]
      exact .malformed
  | succ fuel =>
      rw [items]
      refine (value_readsOn fuel text).bind ?_
      intro item rest
      have after := skipSpace_suffix rest
      dsimp only
      split
      · rename_i closed
        rw [closed] at after
        exact .ok ((List.suffix_cons ']' _).trans after)
      · rename_i more comma
        rw [comma] at after
        have begins := ((skipSpace_suffix more).trans (List.suffix_cons ',' more)).trans after
        refine ((items_readsOn fuel _).mono begins).bind ?_
        intro found last
        exact .ok List.suffix_rfl
      · exact .malformed

theorem fields_readsOn (fuel : Nat) (known : List (String × Json)) (text : List Char) :
    ReadsOn text (fields fuel known text) := by
  cases fuel with
  | zero =>
      rw [fields]
      exact .malformed
  | succ fuel =>
      unfold fields
      split
      · cases ‹_ + 1 = 0›
      · rename_i less known rest same
        obtain rfl := Nat.succ.inj same
        refine ((stringBody_readsOn _ rest).mono (List.suffix_cons '"' rest)).bind ?_
        intro name afterName
        have colon := skipSpace_suffix afterName
        dsimp only
        split
        · rename_i begins found
          rw [found] at colon
          have inside := ((skipSpace_suffix begins).trans (List.suffix_cons ':' begins)).trans colon
          refine ((value_readsOn fuel _).mono inside).bind ?_
          intro item afterItem
          have after := skipSpace_suffix afterItem
          dsimp only
          split
          · rename_i closed
            rw [closed] at after
            exact .ok ((List.suffix_cons '\x7d' _).trans after)
          · rename_i more comma
            rw [comma] at after
            exact (fields_readsOn fuel _ _).mono
              (((skipSpace_suffix more).trans (List.suffix_cons ',' more)).trans after)
          · exact .malformed
        · exact .malformed
      · exact .malformed

end

/-- A text is refused for a numeral that is too long only if too many digits stand in a row. -/
theorem hasLongRun_of_parse {text : List Char} (refused : parse text = .error .longNumeral) :
    HasLongRun text := by
  have reads := (value_readsOn (2 * text.length + 1) (skipSpace text)).mono (skipSpace_suffix text)
  unfold parse at refused
  cases read : value (2 * text.length + 1) (skipSpace text) with
  | error fault =>
      rw [read] at refused
      cases refused
      exact reads.long read
  | ok found =>
      rw [read] at refused
      change (if _ then _ else _) = _ at refused
      split at refused
      · cases refused
      · cases refused

/-! ### Objects -/

theorem unsigned_ne_object (negative : Bool) (text rest : List Char)
    (fields : List (String × Json)) : unsigned negative text ≠ .ok (.object fields, rest) := by
  rw [unsigned_eq]
  dsimp only
  split
  · exact nofun
  split
  · split
    · split
      · exact nofun
      · exact nofun
    · exact nofun
  · exact nofun

theorem scalar_ne_object (text rest : List Char) (fields : List (String × Json)) :
    scalar text ≠ .ok (.object fields, rest) := by
  have noObject : ∀ entry ∈ words, ∀ fields, entry.2 ≠ .object fields := by
    intro entry member fields same
    simp only [words, List.mem_cons, List.not_mem_nil, or_false] at member
    rcases member with rfl | rfl | rfl | rfl | rfl | rfl
    all_goals cases same
  intro read
  unfold scalar at read
  dsimp only at read
  split at read
  · rename_i word
    cases read
    obtain ⟨entry, member, found⟩ := List.exists_of_findSome?_eq_some word
    obtain ⟨_, _, same⟩ := Option.map_eq_some_iff.mp found
    exact noObject entry member fields (Prod.mk.inj same).1
  · split at read
    · exact unsigned_ne_object _ _ _ _ read
    · exact unsigned_ne_object _ _ _ _ read

theorem ofLetters_ne_object (letters : List Letter) (fields : List (String × Json)) :
    ofLetters letters ≠ .object fields := by
  intro same
  unfold ofLetters at same
  split at same
  all_goals cases same

/-- What is read as an object begins with a brace. -/
theorem brace_of_value {fuel : Nat} {text rest : List Char} {fields : List (String × Json)}
    (read : value fuel text = .ok (.object fields, rest)) : text.head? = some '\x7b' := by
  cases fuel with
  | zero => cases read
  | succ fuel =>
      unfold value at read
      split at read
      · cases ‹_ + 1 = 0›
      · rename_i after _
        cases body : stringBody (after.length + 1) after with
        | error fault =>
            rw [body] at read
            cases read
        | ok found =>
            rw [body] at read
            exact absurd (Prod.mk.inj (Except.ok.inj read)).1 (ofLetters_ne_object _ _)
      · rename_i less after same
        obtain rfl := Nat.succ.inj same
        split at read
        · cases read
        · cases inside : items fuel (skipSpace after) with
          | error fault =>
              rw [inside] at read
              cases read
          | ok found =>
              rw [inside] at read
              cases read
      · rfl
      · exact absurd read (scalar_ne_object _ _ _)

theorem brace_of_parse {text : List Char} {fields : List (String × Json)}
    (read : parse text = .ok (.object fields)) : (skipSpace text).head? = some '\x7b' := by
  unfold parse at read
  cases inside : value (2 * text.length + 1) (skipSpace text) with
  | error fault =>
      rw [inside] at read
      cases read
  | ok found =>
      obtain ⟨found, rest⟩ := found
      rw [inside] at read
      change (if _ then _ else _) = _ at read
      split at read
      · cases read
        exact brace_of_value inside
      · cases read

end Json

end PlanCycle
