/-
Module: PlanCycle.Text.Caseless
Purpose: Reading a fixed word in any mix of letter cases.
Main exports:
  matchesLetter, dropWord?
-/

namespace PlanCycle.Text

/-!
Letter case is ignored by folding each character to a small letter.  Four
characters outside ASCII fold to ASCII letters: the dotted capital I and the
dotless i, the long s, and the Kelvin sign.  No other folding matters here,
because the words that are looked for are spelled in ASCII.
-/

/-- The small ASCII letter that a character stands for when case is ignored. -/
def foldLetter (c : Char) : Char :=
  if c.toNat < 128 then c.toLower
  else if c.toNat = 0x130 ∨ c.toNat = 0x131 then 'i'
  else if c.toNat = 0x17F then 's'
  else if c.toNat = 0x212A then 'k'
  else c

/-- Whether a character stands for the given small letter. -/
def matchesLetter (letter c : Char) : Bool :=
  foldLetter c == letter

/-- What follows a word, given in small letters, that the text begins with. -/
def dropWord? : (word text : List Char) → Option (List Char)
  | [], text => some text
  | _ :: _, [] => none
  | letter :: word, c :: text => if matchesLetter letter c then dropWord? word text else none

theorem length_dropWord? {word text rest : List Char} (found : dropWord? word text = some rest) :
    rest.length + word.length = text.length := by
  fun_induction dropWord? word text with
  | case1 text => simp_all
  | case2 => simp at found
  | case3 letter word c text same ih => have := ih found; simp only [List.length_cons]; omega
  | case4 => simp at found

end PlanCycle.Text
