/-
Module: PlanCycle.Text.Quoted
Purpose: Texts in quotes, as messages show them.
Main exports:
  quoted, quotedHalves, quotedBytes
-/
import PlanCycle.Text.Printable
import PlanCycle.Text.Surrogate

namespace PlanCycle.Text

/-!
A text is put in single quotes, or in double quotes if it holds a single quote and no
double one.  The quote in use, backslashes and what cannot be printed are escaped.
-/

/-- The least number of hexadecimal digits, in small letters, padded to a width. -/
def hexPadded (width n : Nat) : List Char :=
  let digits := Nat.toDigits 16 n
  List.replicate (width - digits.length) '0' ++ digits

/-- A character that cannot be printed, by its code point. -/
def escapeCode (n : Nat) : List Char :=
  if n < 0x100 then '\\' :: 'x' :: hexPadded 2 n
  else if n < 0x10000 then '\\' :: 'u' :: hexPadded 4 n
  else '\\' :: 'U' :: hexPadded 8 n

/-- The quote that is put around the text. -/
def quoteFor (text : List Char) : Char :=
  if '\'' ∈ text ∧ '"' ∉ text then '"' else '\''

/-- A character inside the given quotes.  One that cannot be printed is shown by its code. -/
def escapeWithin (quote c : Char) (code : Char → Nat := Char.toNat) : List Char :=
  if c = quote ∨ c = '\\' then ['\\', c]
  else if c = '\n' then ['\\', 'n']
  else if c = '\r' then ['\\', 'r']
  else if c = '\t' then ['\\', 't']
  else if isPrintable c then [c]
  else escapeCode (code c)

/-- The text in quotes. -/
def quotedChars (text : List Char) (code : Char → Nat := Char.toNat) : List Char :=
  let quote := quoteFor text
  quote :: (text.flatMap (escapeWithin quote · code) ++ [quote])

/-- The text in quotes. -/
def quoted (text : String) : String :=
  String.ofList (quotedChars text.toList)

/-- A text in quotes that may hold halves of surrogate pairs. -/
def quotedHalves (text : String) : String :=
  String.ofList (quotedChars text.toList codeOf)

/-- Bytes in quotes: those that are no printable ASCII characters are escaped. -/
def quotedBytes (bytes : List UInt8) : List Char :=
  let text := bytes.map fun b => Char.ofNat b.toNat
  let quote := quoteFor text
  let escape (c : Char) : List Char :=
    if c.toNat < 128 then escapeWithin quote c else escapeCode c.toNat
  'b' :: quote :: (text.flatMap escape ++ [quote])

end PlanCycle.Text
