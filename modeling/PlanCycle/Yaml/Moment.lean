/-
Module: PlanCycle.Yaml.Moment
Purpose: Dates and times of day.
Main exports:
  Date, Moment, readMoment?
-/
import PlanCycle.Yaml.Cursor
import PlanCycle.Number.Numeral

namespace PlanCycle.Yaml

/-- A day. -/
structure Date where
  year : Nat
  month : Nat
  day : Nat
deriving Repr, DecidableEq

/-- A time of a day, with its distance from universal time in seconds if one is known. -/
structure Moment where
  date : Date
  hour : Nat
  minute : Nat
  second : Nat
  microsecond : Nat
  offset : Option Int
deriving Repr, DecidableEq

/-- Whether the year has a leap day. -/
def isLeapYear (year : Nat) : Bool :=
  year % 4 == 0 && (year % 100 != 0 || year % 400 == 0)

/-- The number of days of a month. -/
def monthLength (year month : Nat) : Nat :=
  if month = 2 then (if isLeapYear year then 29 else 28)
  else if month = 4 ∨ month = 6 ∨ month = 9 ∨ month = 11 then 30
  else 31

/-- Whether there is such a day. -/
def Date.isValid (date : Date) : Bool :=
  1 ≤ date.year && date.year ≤ 9999 && 1 ≤ date.month && date.month ≤ 12 && 1 ≤ date.day &&
    date.day ≤ monthLength date.year date.month

/-- Whether there is such a time of day.  An offset stays below one day. -/
def Moment.isValid (moment : Moment) : Bool :=
  moment.date.isValid && moment.hour < 24 && moment.minute < 60 && moment.second < 60 &&
    match moment.offset with
    | some offset => offset.natAbs < 86400
    | none => true

/-- The number of days before the first of January of a year. -/
def daysBeforeYear (year : Nat) : Nat :=
  let y := year - 1
  365 * y + y / 4 - y / 100 + y / 400

/-- The number of a day, counted from the first day of year 1. -/
def Date.ordinal (date : Date) : Nat :=
  let before := (List.range (date.month - 1)).map fun m => monthLength date.year (m + 1)
  daysBeforeYear date.year + before.foldr (· + ·) 0 + date.day

/-- Microseconds since the beginning of year 1, in universal time where the offset is
known. -/
def Moment.instant (moment : Moment) : Int :=
  let seconds : Int :=
    ((moment.date.ordinal * 24 + moment.hour) * 60 + moment.minute) * 60 + moment.second
  (seconds - moment.offset.getD 0) * 1000000 + moment.microsecond

/-- The parts of a written point in time: a date, and a time of day if there is one. -/
structure WrittenMoment where
  /-- Whether month and day have two digits each. -/
  padded : Bool
  date : Date
  time : Option Moment
deriving Repr, DecidableEq

/-- One or two digits. -/
def oneOrTwoDigits? : List Char → Option (List Char × List Char)
  | a :: b :: rest =>
    if a.isDigit then (if b.isDigit then some ([a, b], rest) else some ([a], b :: rest)) else none
  | [a] => if a.isDigit then some ([a], []) else none
  | [] => none

/-- Two digits. -/
def twoDigits? (text : List Char) : Option (Nat × List Char) :=
  match text with
  | a :: b :: rest =>
    if a.isDigit && b.isDigit then some (Number.ofDigits [a, b], rest) else none
  | _ => none

/-- What follows a character. -/
def dropCharacter? (c : Char) : List Char → Option (List Char)
  | d :: rest => if c = d then some rest else none
  | [] => none

/-- A space or a tab. -/
def isWhite (c : Char) : Bool :=
  c == ' ' || c == '\t'

/-- The offset at the end of a point in time, if the text holds one and nothing else. -/
def offset? (text : List Char) : Option (Option Int) := do
  match text with
  | [] => some none
  | _ =>
    match text.dropWhile isWhite with
    | ['Z'] => some (some 0)
    | sign :: rest =>
      guard (sign = '+' ∨ sign = '-')
      let (hours, rest) ← oneOrTwoDigits? rest
      let minutes ← match rest with
        | [] => some 0
        | ':' :: rest => do
          let (minutes, rest) ← twoDigits? rest
          guard rest.isEmpty
          some minutes
        | _ => none
      let seconds : Int := 3600 * Number.ofDigits hours + 60 * minutes
      some (some (if sign = '-' then -seconds else seconds))
    | [] => none

/-- The time of day after a date. -/
def timeOfDay? (date : Date) (text : List Char) : Option Moment := do
  let rest ← match text with
    | c :: rest =>
      if c = 'T' ∨ c = 't' then some rest
      else if isWhite c then some (rest.dropWhile isWhite)
      else none
    | [] => none
  let (hour, rest) ← oneOrTwoDigits? rest
  let (minute, rest) ← twoDigits? (← dropCharacter? ':' rest)
  let (second, rest) ← twoDigits? (← dropCharacter? ':' rest)
  let (fraction, rest) := match rest with
    | '.' :: rest => (rest.takeWhile Char.isDigit, rest.dropWhile Char.isDigit)
    | _ => ([], rest)
  let offset ← offset? rest
  let micro := fraction.take 6
  some
    { date, hour := Number.ofDigits hour, minute, second
      microsecond := Number.ofDigits (micro ++ List.replicate (6 - micro.length) '0')
      offset }

/-- The point in time that a text is written as, whether or not there is such a day. -/
def readMoment? (text : List Char) : Option WrittenMoment := do
  let year := text.take 4
  guard (year.length = 4 ∧ year.all Char.isDigit)
  let (month, rest) ← oneOrTwoDigits? (← dropCharacter? '-' (text.drop 4))
  let (day, rest) ← oneOrTwoDigits? (← dropCharacter? '-' rest)
  let date : Date := ⟨Number.ofDigits year, Number.ofDigits month, Number.ofDigits day⟩
  let padded := month.length = 2 ∧ day.length = 2
  if rest.isEmpty then some ⟨padded, date, none⟩
  else some ⟨padded, date, some (← timeOfDay? date rest)⟩

end PlanCycle.Yaml
