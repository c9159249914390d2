/-
Module: PlanCycle.Review.Keyword
Purpose: The words for verdicts and severities, however they are spelled.
Main exports:
  Verdict.ofKeyword, Severity.ofWord?
-/
import PlanCycle.Review.Basic
import PlanCycle.Text.Blank
import PlanCycle.Text.LowerCase

namespace PlanCycle

open Text

namespace Keyword

/-- Marks that may surround a keyword. -/
def isWrapping (c : Char) : Bool :=
  c ∈ ['*', '`', '[', ']', '(', ')', '.', ':', '"', '\'']

/-- Characters that may stand between the letters of a verdict keyword. -/
def isSeparator (c : Char) : Bool :=
  isBlank c || c == '_' || c == '-'

/-- The text freed of surrounding blanks and marks, in lower case. -/
def bare (text : List Char) : List Char :=
  lowerCase (trim (trimOf isWrapping (trim text)))

/-- The bare text without separators. -/
def condensed (text : List Char) : List Char :=
  (bare text).filter (!isSeparator ·)

end Keyword

/-- The verdict keywords, without separators.  A longer keyword stands before its
own beginnings. -/
def Verdict.keywords : List (String × Verdict) :=
  [("needsrevision", .needsRevision), ("needschanges", .needsRevision),
    ("approved", .approved), ("approve", .approved),
    ("rejected", .rejected), ("reject", .rejected),
    ("unknown", .unknown), ("pass", .approved)]

/-- The verdict that a text names.  Unless it has to be the keyword exactly, the text
may go on after the keyword. -/
def Verdict.ofKeyword (exact : Bool) (text : List Char) : Verdict :=
  let word := Keyword.condensed text
  let named := Verdict.keywords.find? fun entry =>
    if exact then entry.1.toList == word else entry.1.toList.isPrefixOf word
  named.elim .unknown (·.2)

/-- The words for severities. -/
def Severity.keywords : List (String × Severity) :=
  [("critical", .high), ("high", .high), ("medium", .medium), ("moderate", .medium),
    ("low", .low), ("minor", .low)]

/-- The severity that a word stands for. -/
def Severity.ofWord? (text : List Char) : Option Severity :=
  (Severity.keywords.find? fun entry => entry.1.toList == Keyword.bare text).map (·.2)

end PlanCycle
