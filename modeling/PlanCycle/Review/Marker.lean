/-
Module: PlanCycle.Review.Marker
Purpose: Finding the review markers in an agent's answer.
Main exports:
  Marker, Marker.all, Marker.status?
-/
import PlanCycle.Text.Blank
import PlanCycle.Text.Caseless
import PlanCycle.Text.WordCharacter

namespace PlanCycle

open Text

/-- A complete review marker: what its opening tag holds after the tag name, and what
stands between its tags. -/
structure Marker where
  attributes : List Char
  body : List Char
deriving Repr, Inhabited, DecidableEq

namespace Marker

/-- What follows the given character after any blanks. -/
def dropMark? (mark : Char) (text : List Char) : Option (List Char) :=
  match dropBlank text with
  | c :: rest => if c = mark then some rest else none
  | [] => none

theorem length_dropMark? {mark : Char} {text rest : List Char}
    (found : dropMark? mark text = some rest) : rest.length < text.length := by
  have shorter := length_dropBlank_le text
  unfold dropMark? at found
  split at found
  · rename_i c tail same
    split at found
    · cases found; rw [same] at shorter; exact shorter
    · cases found
  · cases found

/-- What follows a closing tag that the text begins with. -/
def closing? : List Char → Option (List Char)
  | '<' :: rest => do
    let rest ← dropMark? '/' rest
    let rest ← dropWord? "review".toList (dropBlank rest)
    dropMark? '>' rest
  | _ => none

/-- Whether the text begins where a word ends: a word character does not follow. -/
def endsWord : List Char → Bool
  | [] => true
  | c :: _ => !isWordCharacter c

/-- The attributes of an opening tag that the text begins with, and what follows it. -/
def opening? : List Char → Option (List Char × List Char)
  | '<' :: rest => do
    let rest ← dropWord? "review".toList (dropBlank rest)
    match rest.dropWhile (· != '>') with
    | _ :: after => if endsWord rest then some (rest.takeWhile (· != '>'), after) else none
    | [] => none
  | _ => none

/-- The text before the first closing tag, and what follows that tag. -/
def untilClosing? : List Char → Option (List Char × List Char)
  | [] => none
  | c :: text =>
    match closing? (c :: text) with
    | some rest => some ([], rest)
    | none => (untilClosing? text).map fun found => (c :: found.1, found.2)

/-- A marker that the text begins with, and what follows it. -/
def complete? (text : List Char) : Option (Marker × List Char) := do
  let (attributes, rest) ← opening? text
  let (body, rest) ← untilClosing? rest
  some (⟨attributes, body⟩, rest)

theorem length_closing? {text rest : List Char} (found : closing? text = some rest) :
    rest.length < text.length := by
  unfold closing? at found
  split at found
  · simp only [Option.bind_eq_bind, Option.bind_eq_some_iff] at found
    obtain ⟨one, slash, two, word, close⟩ := found
    have := length_dropMark? slash
    have := length_dropWord? word
    have := length_dropBlank_le one
    have := length_dropMark? close
    simp only [List.length_cons]
    omega
  · cases found

theorem length_opening? {text attributes rest : List Char}
    (found : opening? text = some (attributes, rest)) : rest.length < text.length := by
  unfold opening? at found
  split at found
  · rename_i tail
    simp only [Option.bind_eq_bind, Option.bind_eq_some_iff] at found
    obtain ⟨one, word, found⟩ := found
    have := length_dropWord? word
    have := length_dropBlank_le tail
    split at found
    · rename_i mark after same
      obtain ⟨_, found⟩ := Option.ite_none_right_eq_some.1 found
      cases found
      have := (List.dropWhile_sublist (l := one) (· != '>')).length_le
      simp only [same, List.length_cons] at this ⊢
      omega
    · cases found
  · cases found

theorem length_untilClosing? {text body rest : List Char}
    (found : untilClosing? text = some (body, rest)) : rest.length < text.length := by
  induction text generalizing body with
  | nil => cases found
  | cons c text ih =>
    unfold untilClosing? at found
    split at found
    · rename_i after closed
      cases found
      exact length_closing? closed
    · obtain ⟨⟨inner, after⟩, inside, same⟩ := Option.map_eq_some_iff.1 found
      cases same
      exact Nat.lt_succ_of_lt (ih inside)

theorem length_complete? {text rest : List Char} {marker : Marker}
    (found : complete? text = some (marker, rest)) : rest.length < text.length := by
  unfold complete? at found
  simp only [Option.bind_eq_bind, Option.bind_eq_some_iff] at found
  obtain ⟨⟨attributes, one⟩, opened, ⟨body, two⟩, closed, same⟩ := found
  cases same
  exact Nat.lt_trans (length_untilClosing? closed) (length_opening? opened)

/-- All complete markers of a text, one after the other. -/
def all (text : List Char) : List Marker :=
  match _found : complete? text with
  | some (marker, rest) => marker :: all rest
  | none =>
    match text with
    | [] => []
    | _ :: text => all text
termination_by text.length
decreasing_by
  · exact length_complete? _found
  · simp

/-- The value of an attribute, which may stand in double or single quotes. -/
def attributeValue? (text : List Char) : Option (List Char) :=
  let quoted (quote : Char) (rest : List Char) : Option (List Char) :=
    if quote ∈ rest then some (rest.takeWhile (· != quote)) else none
  match dropBlank text with
  | '"' :: rest => quoted '"' rest
  | '\'' :: rest => quoted '\'' rest
  | rest =>
    let value := rest.takeWhile fun c => !isBlank c && c != '"' && c != '\'' && c != '>'
    if value.isEmpty then none else some value

/-- The value of the first well-formed status attribute.  The attribute begins a
word, which the character before the text decides. -/
def statusAfter? (inWord : Bool) : List Char → Option (List Char)
  | [] => none
  | c :: text =>
    let here := do
      guard !inWord
      let rest ← dropWord? "status".toList (c :: text)
      attributeValue? (← dropMark? '=' rest)
    here <|> statusAfter? (isWordCharacter c) text

/-- The status that the opening tag states; an empty one counts as none. -/
def status? (marker : Marker) : Option (List Char) :=
  (statusAfter? false marker.attributes).filter (!·.isEmpty)

end Marker

end PlanCycle
