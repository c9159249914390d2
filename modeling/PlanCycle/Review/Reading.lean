/-
Module: PlanCycle.Review.Reading
Purpose: Reading the review out of an agent's answer.
Main exports:
  Review.parse, Review.warnings
-/
import PlanCycle.Review.Finding
import PlanCycle.Review.Marker

namespace PlanCycle

open Text

/-- What follows an optional run of number signs and the blanks after it. -/
def dropHeadingMarks (text : List Char) : List Char :=
  match text with
  | '#' :: _ => dropBlank (text.dropWhile (· == '#'))
  | _ => text

/-- The value on a line that is labelled as the verdict. -/
def verdictLineValue? (line : List Char) : Option (List Char) := do
  let stars (text : List Char) := text.dropWhile (· == '*')
  let rest ← dropWord? "verdict".toList (stars (dropHeadingMarks (dropBlank line)))
  let rest := dropBlank (stars rest)
  let rest := match rest with
    | ':' :: rest => rest
    | rest => rest
  some (trim (stars rest))

/-- The verdict that labelled lines name.  A label without a value names what stands
on the next line that is not blank; the first label with a known verdict decides. -/
def Verdict.ofLines : List (List Char) → Verdict
  | [] => .unknown
  | line :: lines =>
    match verdictLineValue? line with
    | none => ofLines lines
    | some value =>
      let word :=
        if value.isEmpty then ((lines.map trim).find? (!·.isEmpty)).getD [] else value
      match Verdict.ofKeyword false word with
      | .unknown => ofLines lines
      | verdict => verdict

/-- The verdict that the body of a marker names: the whole body, or a labelled line. -/
def Verdict.ofBody (body : List Char) : Verdict :=
  match Verdict.ofKeyword true body with
  | .unknown => Verdict.ofLines (splitLines body)
  | verdict => verdict

namespace Marker

/-- The verdict of a marker: its status, else what its body names. -/
def verdict (marker : Marker) : Verdict :=
  match (marker.status?.map (Verdict.ofKeyword false)).getD .unknown with
  | .unknown => Verdict.ofBody marker.body
  | verdict => verdict

end Marker

/-- The review in an answer is that of its last complete marker. -/
def Review.ofChars (text : List Char) : Review :=
  match (Marker.all text).getLast? with
  | none => ⟨.unknown, [], String.ofList text⟩
  | some marker => ⟨marker.verdict, issuesOf marker.body, String.ofList text⟩

/-- The review in an agent's answer. -/
def Review.parse (text : String) : Review :=
  Review.ofChars text.toList

/-- The wording of the warning for a text that looks like an issue without being one. -/
def droppedWarning (text : String) : String :=
  "Dropping issue without recognizable severity: " ++ text

/-- The warnings that reading an agent's answer gives rise to. -/
def Review.warnings (text : String) : List String :=
  match (Marker.all text.toList).getLast? with
  | none => []
  | some marker => (droppedOf marker.body).map droppedWarning

end PlanCycle
