/-
Module: PlanCycle.Text.Utf8
Purpose: Bytes as text.
Main exports:
  decodePieces, decode?, decodeLossy
-/

namespace PlanCycle.Text

/-!
Text is encoded in one to four bytes a character.  The first byte says how many follow and
what the first of those may be; all later ones are from 80 to BF.  Where bytes stop being
a valid beginning of a character, the beginning found so far is one invalid piece.
-/

/-- How a character that starts with a byte goes on: the bits in the first byte, how many
bytes follow, and the bounds of the first of these. -/
def continuation? (first : Nat) : Option (Nat × Nat × Nat × Nat) :=
  if 0xC2 ≤ first ∧ first ≤ 0xDF then some (first - 0xC0, 1, 0x80, 0xBF)
  else if first = 0xE0 then some (0, 2, 0xA0, 0xBF)
  else if first = 0xED then some (0xD, 2, 0x80, 0x9F)
  else if 0xE1 ≤ first ∧ first ≤ 0xEF then some (first - 0xE0, 2, 0x80, 0xBF)
  else if first = 0xF0 then some (0, 3, 0x90, 0xBF)
  else if 0xF1 ≤ first ∧ first ≤ 0xF3 then some (first - 0xF0, 3, 0x80, 0xBF)
  else if first = 0xF4 then some (4, 3, 0x80, 0x8F)
  else none

/-- Goes on with a character of which so many bytes are missing.  The rest starts after the
character or, if a byte does not fit, at that byte. -/
def finishCharacter (bits low high : Nat) : Nat → List UInt8 → Option Char × List UInt8
  | 0, bytes => (some (Char.ofNat bits), bytes)
  | _ + 1, [] => (none, [])
  | missing + 1, byte :: bytes =>
    if low ≤ byte.toNat ∧ byte.toNat ≤ high then
      finishCharacter (bits * 64 + byte.toNat % 64) 0x80 0xBF missing bytes
    else (none, byte :: bytes)

theorem length_finishCharacter_le (bits low high missing : Nat) (bytes : List UInt8) :
    (finishCharacter bits low high missing bytes).2.length ≤ bytes.length := by
  induction missing generalizing bits low high bytes with
  | zero => simp [finishCharacter]
  | succ missing ih =>
    cases bytes with
    | nil => simp [finishCharacter]
    | cons byte bytes =>
      simp only [finishCharacter]
      split
      · exact Nat.le_succ_of_le (ih ..)
      · simp

/-- The character that starts with a byte, if it is valid, and the rest. -/
def decodeCharacter (first : UInt8) (bytes : List UInt8) : Option Char × List UInt8 :=
  if first.toNat < 0x80 then (some (Char.ofNat first.toNat), bytes)
  else
    match continuation? first.toNat with
    | none => (none, bytes)
    | some (bits, missing, low, high) => finishCharacter bits low high missing bytes

theorem length_decodeCharacter_le (first : UInt8) (bytes : List UInt8) :
    (decodeCharacter first bytes).2.length ≤ bytes.length := by
  unfold decodeCharacter
  split
  · simp
  · split
    · simp
    · exact length_finishCharacter_le ..

/-- The characters and invalid pieces of bytes, in order. -/
def decodePieces : List UInt8 → List (Option Char)
  | [] => []
  | first :: bytes =>
    (decodeCharacter first bytes).1 :: decodePieces (decodeCharacter first bytes).2
termination_by bytes => bytes.length
decreasing_by
  exact Nat.lt_succ_of_le (length_decodeCharacter_le first bytes)

/-- The text of bytes, if all of them are valid. -/
def decode? (bytes : List UInt8) : Option String :=
  ((decodePieces bytes).mapM id).map String.ofList

/-- The text of bytes, with a replacement character for each invalid piece. -/
def decodeLossy (bytes : List UInt8) : String :=
  String.ofList ((decodePieces bytes).map (·.getD '\uFFFD'))

/-- The bytes of a text. -/
def encode (text : String) : List UInt8 := text.toUTF8.toList

end PlanCycle.Text
