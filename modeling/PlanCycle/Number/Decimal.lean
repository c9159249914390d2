/-
Module: PlanCycle.Number.Decimal
Purpose: Decimal numbers of 28 digits, as sums of money are kept.
Main exports:
  Decimal, Decimal.add, Decimal.mul, Decimal.millionths, Decimal.text, Decimal.read?
-/
import PlanCycle.Number.Reading

namespace PlanCycle.Number

/-!
A decimal is a whole coefficient times a power of ten, and `1.0` and `1.00` are
different decimals.  Results of arithmetic with more than 28 digits are rounded to 28,
a tie to the even digit; those too small for 28 digits keep as many as there are above the
least exponent.
-/

/-- A sign, a coefficient and a power of ten. -/
structure Decimal where
  negative : Bool
  coefficient : Nat
  exponent : Int
deriving Repr, Inhabited, DecidableEq

namespace Decimal

/-- Zero without decimal places. -/
def zero : Decimal := ⟨false, 0, 0⟩

/-- A whole number. -/
def ofInt (n : Int) : Decimal := ⟨n < 0, n.natAbs, 0⟩

/-- The number of digits of a coefficient; zero has one. -/
def digitCount (n : Nat) : Nat :=
  (toString n).length

/-- How many digits a result may have. -/
def precision : Nat := 28

/-- The least exponent of a result. -/
def leastExponent : Int := -1000026

/-- The number rounded to the precision and to the least exponent. -/
def round (d : Decimal) : Decimal :=
  let excess := max (digitCount d.coefficient - precision) (leastExponent - d.exponent).toNat
  if excess = 0 then d
  else
    let kept := roundQuotient d.coefficient (tenTo excess)
    if kept = tenTo precision then ⟨d.negative, tenTo (precision - 1), d.exponent + excess + 1⟩
    else ⟨d.negative, kept, d.exponent + excess⟩

/-- The coefficient with its sign that the number has for a smaller power of ten. -/
def scaledTo (d : Decimal) (exponent : Int) : Int :=
  let n : Int := (d.coefficient * tenTo (d.exponent - exponent).toNat : Nat)
  if d.negative then -n else n

/-- The sum, rounded.  It has the smaller power of ten of the two.  A sum of zero is
negative only if both numbers are. -/
def add (a b : Decimal) : Decimal :=
  let exponent := min a.exponent b.exponent
  let n := a.scaledTo exponent + b.scaledTo exponent
  let negative := if n = 0 then a.negative && b.negative && a.coefficient == 0 else n < 0
  round ⟨negative, n.natAbs, exponent⟩

/-- The product, rounded. -/
def mul (a b : Decimal) : Decimal :=
  round ⟨a.negative != b.negative, a.coefficient * b.coefficient, a.exponent + b.exponent⟩

/-- A coefficient without trailing zeros as far as the power of ten stays below zero;
the given number of places are left to drop. -/
def dropZeros : (places : Nat) → Nat → Nat × Nat
  | 0, n => (0, n)
  | places + 1, n => if n % 10 = 0 then dropZeros places (n / 10) else (places + 1, n)

/-- A millionth of a whole number, rounded, with as few decimal places as possible. -/
def millionths (n : Int) : Decimal :=
  if n = 0 then zero
  else
    let (places, coefficient) := dropZeros 6 n.natAbs
    round ⟨n < 0, coefficient, -places⟩

/-- The text of a number.  Numbers without positive exponent that begin at most five
zeros after the point are written with a point, all others with an exponent. -/
def chars (d : Decimal) : List Char :=
  let digits := (toString d.coefficient).toList
  let point : Int := d.exponent + digits.length
  let body :=
    if d.exponent ≤ 0 ∧ -6 < point then
      if d.exponent = 0 then digits
      else if point ≤ 0 then '0' :: '.' :: (List.replicate point.natAbs '0' ++ digits)
      else digits.take point.natAbs ++ '.' :: digits.drop point.natAbs
    else
      let mantissa := match digits with
        | first :: second :: rest => first :: '.' :: second :: rest
        | digits => digits
      let power := point - 1
      mantissa ++ 'E' :: (if power < 0 then '-' else '+') :: (toString power.natAbs).toList
  if d.negative then '-' :: body else body

/-- The text of a number. -/
def text (d : Decimal) : String :=
  String.ofList d.chars

/-- The number that a text stands for.  Nothing is rounded. -/
def readChars? (text : List Char) : Option Decimal := do
  let text := plainDigits ((Text.trim text).filter (· != '_'))
  let (negative, rest) := splitSign text
  let isExponentMark (c : Char) := c == 'e' || c == 'E'
  let mantissa := rest.takeWhile (!isExponentMark ·)
  let power ← match rest.dropWhile (!isExponentMark ·) with
    | [] => some (0 : Int)
    | _ :: exponent =>
      let (negative, digits) := splitSign exponent
      if digits.isEmpty || !digits.all Char.isDigit then none
      else some (if negative then -(ofDigits digits : Int) else ofDigits digits)
  let whole := mantissa.takeWhile (· != '.')
  let part := (mantissa.dropWhile (· != '.')).drop 1
  guard ((whole ++ part).all Char.isDigit ∧ !(whole ++ part).isEmpty)
  some ⟨negative, ofDigits (whole ++ part), power - part.length⟩

/-- The number that a text stands for.  Nothing is rounded. -/
def read? (text : String) : Option Decimal :=
  readChars? text.toList

/-- The number with the given number of decimal places, a tie rounded to the even
digit. -/
def fixed (places : Nat) (d : Decimal) : String :=
  let shift := d.exponent + places
  let n :=
    if 0 ≤ shift then d.coefficient * tenTo shift.toNat
    else roundQuotient d.coefficient (tenTo shift.natAbs)
  let digits := (toString n).toList
  let digits := List.replicate (places + 1 - digits.length) '0' ++ digits
  let whole := digits.take (digits.length - places)
  let part := digits.drop (digits.length - places)
  String.ofList
    ((if d.negative then ['-'] else []) ++ whole ++ (if part.isEmpty then [] else '.' :: part))

end Decimal

end PlanCycle.Number
