/-
Module: PlanCycle.Text.Resemblance
Purpose: How alike two texts are, for suggesting a name in place of a mistyped one.
Main exports:
  longestBlock, sharedCount, resembling
-/

namespace PlanCycle.Text

/-!
Two texts share their longest common block, and then what the parts before it share and
what the parts after it share.  A name resembles a word if at least three fifths of their
characters are shared.
-/

/-- How many characters two texts begin with in common. -/
def commonStart : List Char → List Char → Nat
  | a :: as, b :: bs => if a = b then commonStart as bs + 1 else 0
  | _, _ => 0

/-- A run of characters that two texts have in common: where it begins in each, and its length. -/
structure Block where
  left : Nat := 0
  right : Nat := 0
  length : Nat := 0
deriving Repr, Inhabited, DecidableEq

/-- The longer of two blocks, the first one of two equally long ones. -/
def Block.longer (first second : Block) : Block :=
  if first.length < second.length then second else first

/-- The longest block in common; of several, the one that begins first in the first text and
then in the second. -/
def longestBlock (a b : List Char) : Block :=
  let places := (List.range a.length).flatMap fun i => (List.range b.length).map fun j => (i, j)
  (places.map fun (i, j) => ⟨i, j, commonStart (a.drop i) (b.drop j)⟩).foldl Block.longer {}

/-- How many characters two texts share, with at most so many blocks. -/
def sharedWithin : (blocks : Nat) → List Char → List Char → Nat
  | 0, _, _ => 0
  | blocks + 1, a, b =>
    let block := longestBlock a b
    if block.length = 0 then 0
    else
      sharedWithin blocks (a.take block.left) (b.take block.right) + block.length +
        sharedWithin blocks (a.drop (block.left + block.length))
          (b.drop (block.right + block.length))

/-- How many characters two texts share. -/
def sharedCount (a b : List Char) : Nat := sharedWithin a.length a b

/-- The names that resemble a word, the most alike first and of equally alike ones the greatest
first; no more than three. -/
def resembling (word : String) (names : List String) : List String :=
  let scored := names.map fun name =>
    (name, 2 * sharedCount name.toList word.toList, name.length + word.length)
  let alike := scored.filter fun (_, shared, total) => 3 * total ≤ 5 * shared
  let before (a b : String × Nat × Nat) : Bool :=
    let left := a.2.1 * b.2.2
    let right := b.2.1 * a.2.2
    right < left || left == right && b.1 ≤ a.1
  ((alike.mergeSort before).take 3).map (·.1)

end PlanCycle.Text
