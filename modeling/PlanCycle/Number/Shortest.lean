/-
Module: PlanCycle.Number.Shortest
Purpose: The shortest decimal text of a binary number.
Main exports:
  Binary64.shortestDigits, FloatFormat, Binary64.text
-/
import PlanCycle.Number.Binary64

namespace PlanCycle.Number

/-!
The shortest decimal of a number is one with the fewest digits that reads back as the
number; among those it is the nearest.  It is looked for on the decimal grids of 1, 2,
… 17 digits: on each grid only the two neighbours of the exact value come into
question.
-/

namespace Binary64

/-- A grid point below the value and the fraction of a step by which it is missed, for
the grid of multiples of ten to the given power: quotient, remainder and divisor. -/
def gridPoint (num den : Nat) (power : Int) : Nat × Nat × Nat :=
  let (n, d) :=
    if power < 0 then (num * tenTo power.natAbs, den) else (num, den * tenTo power.natAbs)
  (n / d, n % d, d)

/-- The number of digits before the decimal point of a positive fraction; zero or less
counts the zeros after the point. -/
def pointPosition (num den : Nat) : Int :=
  let guess : Int := ((toString num).length : Int) - ((toString den).length : Int)
  if (gridPoint num den guess).1 = 0 then guess else guess + 1

/-- Whether `digits · 10^power` reads back as the number with this mantissa and
exponent. -/
def readsBack (mantissa : Nat) (exponent : Int) (digits : Nat) (power : Int) : Bool :=
  ofDecimal false digits power == .finite false mantissa exponent

/-- The shortest digits on the grids of at least `count` digits, with the power of
ten that the last digit counts. -/
def shortestFrom (mantissa : Nat) (exponent : Int) (num den : Nat) (point : Int) :
    (count fuel : Nat) → Nat × Int
  | count, 0 => ((gridPoint num den (point - count)).1, point - count)
  | count, fuel + 1 =>
    let power := point - count
    let (below, rest, step) := gridPoint num den power
    let low := readsBack mantissa exponent below power
    let high := readsBack mantissa exponent (below + 1) power
    if low && high then
      (if 2 * rest < step then below
        else if step < 2 * rest then below + 1
        else if below % 2 = 0 then below else below + 1, power)
    else if low then (below, power)
    else if high then (below + 1, power)
    else shortestFrom mantissa exponent num den point (count + 1) fuel

/-- The digits of the shortest decimal without trailing zeros, and the position of the
point relative to the first digit. -/
def shortestDigits (mantissa : Nat) (exponent : Int) : List Char × Int :=
  if mantissa = 0 then (['0'], 1)
  else
    let scale := twoTo exponent.natAbs
    let (num, den) := if exponent < 0 then (mantissa, scale) else (mantissa * scale, 1)
    let point := pointPosition num den
    let (digits, power) := shortestFrom mantissa exponent num den point 1 17
    let written := (toString digits).toList
    let bare := (written.reverse.dropWhile (· == '0')).reverse
    (bare, power + written.length)

end Binary64

/-- How a binary number is written. -/
structure FloatFormat where
  /-- Least and greatest position of the point that is written without an exponent. -/
  positional : Int × Int
  infinity : String
  nan : String

namespace Binary64

/-- The digits with a point, and at least one digit after it. -/
def positionalText (digits : List Char) (point : Int) : List Char :=
  if point ≤ 0 then "0.".toList ++ List.replicate point.natAbs '0' ++ digits
  else
    let whole := digits.take point.natAbs ++ List.replicate (point.natAbs - digits.length) '0'
    let fraction := digits.drop point.natAbs
    whole ++ '.' :: (if fraction.isEmpty then ['0'] else fraction)

/-- The exponent with its sign and at least two digits. -/
def exponentText (exponent : Int) : List Char :=
  let digits := (toString exponent.natAbs).toList
  (if exponent < 0 then '-' else '+') :: (List.replicate (2 - digits.length) '0' ++ digits)

/-- The digits with an exponent; a single digit has no point. -/
def scientificText (digits : List Char) (point : Int) : List Char :=
  let mantissa := match digits with
    | [] => []
    | [d] => [d]
    | d :: rest => d :: '.' :: rest
  mantissa ++ 'e' :: exponentText (point - 1)

/-- The text of a number. -/
def text (format : FloatFormat) : Binary64 → String
  | .nan => format.nan
  | .infinite negative => (if negative then "-" else "") ++ format.infinity
  | .finite negative mantissa exponent =>
    let (digits, point) := shortestDigits mantissa exponent
    let body :=
      if format.positional.1 ≤ point && point ≤ format.positional.2 then positionalText digits point
      else scientificText digits point
    String.ofList ((if negative then ['-'] else []) ++ body)

end Binary64

/-- The plain form: positional from 0.0001 up to, but not including, ten to the
sixteenth. -/
def FloatFormat.plain : FloatFormat := ⟨(-3, 16), "inf", "nan"⟩

end PlanCycle.Number
