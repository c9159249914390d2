/-
Module: PlanCycle.Number.Binary64
Purpose: Binary floating-point numbers of 64 bits, as exact values.
Main exports:
  Binary64, Binary64.ofRatio, Binary64.ofDecimal, Binary64.truncate?
-/
import PlanCycle.Number.Scaling

namespace PlanCycle.Number

/-!
A finite number is a whole mantissa times a power of two.  Everything that makes such
a number goes through `Binary64.ofRatio`, which rounds a fraction to the nearest
representable one and a tie to the one with the even mantissa.  Therefore a finite
number has a mantissa below 2^53, and one below 2^52 only with the least exponent.
-/

/-- A number of the binary format with 53 bits of precision. -/
inductive Binary64 where
  | finite (negative : Bool) (mantissa : Nat) (exponent : Int)
  | infinite (negative : Bool)
  | nan
deriving Repr, Inhabited, DecidableEq

namespace Binary64

/-- The number of bits of a full mantissa. -/
def precision : Nat := 53

/-- The exponent of the smallest numbers. -/
def leastExponent : Int := -1074

/-- The largest exponent of a finite number. -/
def greatestExponent : Int := 971

/-- The quotient of `num / den` by two to the given power, as a fraction. -/
def scaled (num den : Nat) (exponent : Int) : Nat × Nat :=
  if exponent < 0 then (num * twoTo exponent.natAbs, den) else (num, den * twoTo exponent.natAbs)

/-- The exponent with which a positive fraction has a full mantissa, or the least
exponent if that is larger. -/
def exponentFor (num den : Nat) : Int :=
  let guess : Int := (num.log2 : Int) - (den.log2 : Int) - 52
  let (n, d) := scaled num den guess
  let exact := if n < d * twoTo 52 then guess - 1 else guess
  max exact leastExponent

/-- The fraction `num / den`, rounded to the nearest number. -/
def ofRatio (negative : Bool) (num den : Nat) : Binary64 :=
  if num = 0 then .finite negative 0 leastExponent
  else
    let exponent := exponentFor num den
    let (n, d) := scaled num den exponent
    let mantissa := roundQuotient n d
    let (mantissa, exponent) :=
      if mantissa = twoTo precision then (twoTo 52, exponent + 1) else (mantissa, exponent)
    if greatestExponent < exponent then .infinite negative else .finite negative mantissa exponent

/-- Whole numbers times a power of ten, rounded to the nearest number.  Magnitudes
far outside the range are decided by the number of digits. -/
def ofDecimal (negative : Bool) (digits : Nat) (exponent : Int) : Binary64 :=
  let magnitude : Int := ((toString digits).length : Int) + exponent
  if digits = 0 then .finite negative 0 leastExponent
  else if 400 < magnitude then .infinite negative
  else if magnitude < -400 then .finite negative 0 leastExponent
  else if exponent < 0 then ofRatio negative digits (tenTo exponent.natAbs)
  else ofRatio negative (digits * tenTo exponent.natAbs) 1

/-- A whole number, rounded to the nearest number. -/
def ofInt (n : Int) : Binary64 :=
  ofRatio (n < 0) n.natAbs 1

/-- The value of a finite number as a signed numerator and a denominator. -/
def ratio? : Binary64 → Option (Int × Nat)
  | .finite negative mantissa exponent =>
    let signed : Int := if negative then -(mantissa : Int) else mantissa
    let scale := twoTo exponent.natAbs
    some (if exponent < 0 then (signed, scale) else (signed * scale, 1))
  | _ => none

/-- The whole part of a finite number: what remains when the fraction is cut off. -/
def truncate? (x : Binary64) : Option Int :=
  x.ratio?.map fun value => Int.tdiv value.1 value.2

/-- Whether the number is a zero of either sign. -/
def isZero : Binary64 → Bool
  | .finite _ mantissa _ => mantissa == 0
  | _ => false

/-- The nearest number to the exact fraction; its sign is that of the numerator. -/
def ofSigned (num : Int) (den : Nat) : Binary64 :=
  ofRatio (num < 0) num.natAbs den

/-- The sum, rounded. -/
def add (x y : Binary64) : Binary64 :=
  match x, y with
  | .nan, _ | _, .nan => .nan
  | .infinite s, .infinite t => if s = t then .infinite s else .nan
  | .infinite s, _ => .infinite s
  | _, .infinite t => .infinite t
  | .finite true 0 e, .finite true 0 _ => .finite true 0 e
  | x, y =>
    match x.ratio?, y.ratio? with
    | some (a, b), some (c, d) => ofSigned (a * d + c * b) (b * d)
    | _, _ => .nan

/-- The product, rounded. -/
def mul (x y : Binary64) : Binary64 :=
  let sign : Binary64 → Bool
    | .finite s _ _ => s
    | .infinite s => s
    | .nan => false
  let negative := sign x != sign y
  match x, y with
  | .nan, _ | _, .nan => .nan
  | .infinite _, y => if y.isZero then .nan else .infinite negative
  | x, .infinite _ => if x.isZero then .nan else .infinite negative
  | x, y =>
    match x.ratio?, y.ratio? with
    | some (a, b), some (c, d) => ofRatio negative (a * c).natAbs (b * d)
    | _, _ => .nan

/-- The number with the other sign. -/
def neg : Binary64 → Binary64
  | .finite s m e => .finite (!s) m e
  | .infinite s => .infinite (!s)
  | .nan => .nan

end Binary64

end PlanCycle.Number
