/-
Module: PlanCycle.Number.Reading
Purpose: Numbers as people write them, with signs, digit groups and any script's digits.
Main exports:
  readInt?, readFloat?
-/
import PlanCycle.Number.Binary64
import PlanCycle.Number.Numeral
import PlanCycle.Text.Blank
import PlanCycle.Text.Digit

namespace PlanCycle.Number

open Text

/-- Blanks that may surround a number; the information separators may not. -/
def isNumberBlank (c : Char) : Bool :=
  isBlank c && !(28 ≤ c.toNat && c.toNat < 32)

/-- The text with digits of other scripts replaced by ASCII digits. -/
def plainDigits (text : List Char) : List Char :=
  text.map fun c =>
    match digitValue? c with
    | some n => Char.ofNat (48 + n)
    | none => c

/-- A sign, if there is one, and what follows it. -/
def splitSign : List Char → Bool × List Char
  | '-' :: rest => (true, rest)
  | '+' :: rest => (false, rest)
  | rest => (false, rest)

/-- The value of a digit in any base up to 16. -/
def baseDigit? (base : Nat) (c : Char) : Option Nat :=
  (hexValue? c).filter (· < base)

/-- The digits of a text in which single underscores may stand between digits. -/
def groupedDigits? (isMember : Char → Bool) : List Char → Option (List Char)
  | [] => none
  | [c] => if isMember c then some [c] else none
  | c :: '_' :: rest =>
    if isMember c then (groupedDigits? isMember rest).map (c :: ·) else none
  | c :: rest => if isMember c then (groupedDigits? isMember rest).map (c :: ·) else none

/-- The letter that announces a base. -/
def baseLetter? : Nat → Option Char
  | 2 => some 'b'
  | 8 => some 'o'
  | 16 => some 'x'
  | _ => none

/-- Drops the announcement of a base and one underscore after it. -/
def dropBaseMark (base : Nat) (text : List Char) : List Char :=
  match text with
  | '0' :: letter :: rest =>
    if baseLetter? base = some letter.toLower then
      match rest with
      | '_' :: rest => rest
      | rest => rest
    else text
  | _ => text

/-- The whole number that a text stands for in a base.  Blanks around it, a sign and
single underscores between digits are allowed. -/
def readInt? (base : Nat) (text : List Char) : Option Int := do
  let (negative, rest) := splitSign (plainDigits (trimOf isNumberBlank text))
  let digits ← groupedDigits? (fun c => (baseDigit? base c).isSome) (dropBaseMark base rest)
  guard (base ≠ 10 ∨ digits.length ≤ numeralLimit)
  let n : Int := (digits.foldl (fun n c => base * n + (baseDigit? base c).getD 0) 0 : Nat)
  some (if negative then -n else n)

/-- Digits in groups, which may be missing altogether. -/
def optionalDigits? (text : List Char) : Option (List Char) :=
  if text.isEmpty then some [] else groupedDigits? Char.isDigit text

/-- The number that a text stands for.  Blanks around it, a sign, a fraction, an
exponent and the words for infinity and "not a number" are allowed. -/
def readFloat? (text : List Char) : Option Binary64 := do
  let (negative, rest) := splitSign (plainDigits (trimOf isNumberBlank text))
  let word := String.ofList (rest.map Char.toLower)
  if word = "inf" ∨ word = "infinity" then some (.infinite negative)
  else if word = "nan" then some .nan
  else
    let isExponentMark (c : Char) := c == 'e' || c == 'E'
    let mantissa := rest.takeWhile (!isExponentMark ·)
    let power ← match rest.dropWhile (!isExponentMark ·) with
      | [] => some 0
      | _ :: exponent => do
        let (negative, digits) := splitSign exponent
        let digits ← groupedDigits? Char.isDigit digits
        some (if negative then -(ofDigits digits : Int) else ofDigits digits)
    let whole ← optionalDigits? (mantissa.takeWhile (· != '.'))
    let part ← optionalDigits? ((mantissa.dropWhile (· != '.')).drop 1)
    guard (!(whole.isEmpty && part.isEmpty))
    some (.ofDecimal negative (ofDigits (whole ++ part)) (power - part.length))

end PlanCycle.Number
