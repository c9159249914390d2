/-
Module: PlanCycle.Cycle.Prompt
Purpose: What agents are asked.
Main exports:
  Prompt, ChangeFolder.generationPrompt, selfReviewPrompt, critiquePrompt, revisionPrompt,
  implementationPrompt, agentVariables
-/
import PlanCycle.Agent.Basic
import PlanCycle.Change.Documents
import PlanCycle.Number.Numeral
import PlanCycle.Text.Line

namespace PlanCycle

open Number Text

namespace Prompt

/-- What a proposal should look like. -/
def proposalRules : String := joinLines
    ["Structure:",
     "- `# <title>` heading",
     "- `## Why` motivation",
     "- `## What Changes` bullet list",
     "- `## Impact` section containing the line `- Affected specs: <comma-separated spec ids>`",
     "  (use short kebab-case ids such as `auth-flow`; write `none` if no spec is needed)"]

/-- What a task list should look like. -/
def taskRules : String := joinLines
    ["Structure:",
     "- YAML frontmatter between `---` lines with `id: <change id>`, `type: tasks` and a",
     "  `layers:` mapping using only the names data, logic, integration, testing",
     "- one `### <id> <title>` heading per task followed by a fenced ```yaml block with",
     "  `id` (e.g. \"1.2\", the number before the dot is the layer: 1 data, 2 logic,",
     "  3 integration, 4 testing), `action` (CREATE, MODIFY or DELETE), `file`,",
     "  `spec_ref` (a spec id from the proposal), `status: pending` and `depends_on`",
     "  (ids of tasks in LOWER layers only)"]

/-- What a spec should look like. -/
def specRules : String := joinLines
    ["Structure:",
     "- `# <spec title>` heading",
     "- `## Overview`",
     "- `## Requirements` with one `### R<n>: <name>` block per requirement",
     "- `## Acceptance Criteria` with WHEN/THEN scenarios"]

/-- What a document should look like; nothing is said of the critiques. -/
def rules? : Artifact → Option String
  | .proposal => some proposalRules
  | .spec _ => some specRules
  | .tasks => some taskRules
  | .challenge => none

/-- What a critique should look like. -/
def reviewFormat (iteration : Int) (reviewer : String) : String :=
  "Finish your answer with exactly one review block:\n\n" ++
    "<review status=\"approved|needs_revision|rejected\" iteration=\"" ++ intText iteration ++
    "\" reviewer=\"" ++ reviewer ++ "\">\n" ++ joinLines
    ["## Summary",
     "<overall assessment>",
     "",
     "## Issues",
     "### <short issue title>",
     "- **Severity**: High|Medium|Low",
     "- **Description**: <what is wrong>",
     "- **Location**: <file and section>",
     "",
     "## Verdict",
     "APPROVED|NEEDS_REVISION|REJECTED",
     "",
     "## Next Steps",
     "<recommendations>",
     "</review>",
     "",
     "- approved: complete, consistent and ready for implementation",
     "- needs_revision: concrete content problems; list every one under Issues",
     "- rejected: fundamental design problems that require starting over"]

/-- What a critic should look at. -/
def challengeTask : String := joinLines
    ["Challenge this plan. Look for content and logic problems only; structure has",
     "already been validated:",
     "- completeness: requirements or scenarios missing",
     "- consistency: specs disagree with the proposal, tasks miss requirements",
     "- feasibility: the design cannot be implemented as written",
     "- clarity: requirements are ambiguous or untestable",
     "- dependencies: task ordering is wrong or prerequisites are missing"]

/-- How a document is called in a prompt. -/
def label : Artifact → String
  | .spec id => "spec `" ++ id ++ "`"
  | artifact => artifact.name

/-- How a document is headed in a prompt: its file seen from the folder of its change. -/
def fileLabel (artifact : Artifact) : String :=
  "/".intercalate artifact.file

end Prompt

/-- Why a prompt cannot be written. -/
inductive PromptFault where
  | file (fault : FileFault)
  /-- There are no rules for such a document. -/
  | noRules
deriving Repr, DecidableEq

namespace ChangeFolder

open Prompt

/-- A document under a heading. -/
def underHeading (folder : ChangeFolder) (heading : String) (artifact : Artifact) :
    Except FileFault String :=
  (folder.read artifact).map fun text => "\n## " ++ heading ++ "\n\n" ++ text ++ "\n"

/-- The specs that exist, each under its heading. -/
def specContext (folder : ChangeFolder) : List String → Except FileFault String
  | [] => .ok ""
  | id :: ids => do
    let here ←
      if folder.has (.spec id) then folder.underHeading ("Spec " ++ id) (.spec id) else .ok ""
    .ok (here ++ (← folder.specContext ids))

/-- The documents that an agent sees when it writes another one. -/
def context (folder : ChangeFolder) (artifact : Artifact) : Except FileFault String := do
  let proposal ←
    if artifact ≠ .proposal ∧ folder.has .proposal then folder.underHeading "Proposal" .proposal
    else .ok ""
  let specs ← if artifact = .tasks then do folder.specContext (← folder.specIds) else .ok ""
  .ok (proposal ++ specs)

/-- Asks for a document. -/
def generationPrompt (folder : ChangeFolder) (changeId description : String)
    (artifact : Artifact) : Except PromptFault String :=
  match rules? artifact with
  | none => .error .noRules
  | some rules => do
    let context ← (folder.context artifact).mapError .file
    .ok (joinLines
      ["## Change ID", changeId, "", "## User Request", description, context, "## Task", "",
        "Write the " ++ label artifact ++ " for this change to `" ++ folder.pathText artifact ++
          "`.",
        "Analyze the codebase first and keep the document specific to this project.", "", rules,
        "",
        "If you cannot write files, reply with the complete markdown document and nothing else.",
        ""])

/-- Asks for a look at a document by the agent that wrote it. -/
def selfReviewPrompt (folder : ChangeFolder) (changeId : String) (artifact : Artifact) : String :=
  joinLines
    ["## Change ID", changeId, "", "## Task", "",
      "Review `" ++ folder.pathText artifact ++
        "` against the change request. Fix any problem you",
      "find directly in the file.", "",
      "When done, end your reply with `<review>PASS</review>` if the document needed no",
      "changes, or `<review>NEEDS_REVISION</review>` if you had to fix something.", ""]

/-- The documents that exist, each under its file's name. -/
def bundleOf (folder : ChangeFolder) : List Artifact → Except FileFault (List String)
  | [] => .ok []
  | artifact :: artifacts => do
    let here ←
      if folder.has artifact then
        (folder.read artifact).map fun text => ["### " ++ fileLabel artifact ++ "\n\n" ++ text]
      else .ok []
    .ok (here ++ (← folder.bundleOf artifacts))

/-- All documents of the plan. -/
def bundle (folder : ChangeFolder) : Except FileFault String := do
  let parts ← folder.bundleOf (← folder.required)
  .ok ("\n\n".intercalate parts)

/-- Asks for a critique of the plan. -/
def critiquePrompt (folder : ChangeFolder) (changeId : String) (iteration : Int)
    (reviewer : String) : Except FileFault String := do
  let documents ← folder.bundle
  .ok (joinLines
    ["## Change ID", changeId, "", "## Documents", "", documents, "", "## Task", "",
      challengeTask, "", reviewFormat iteration reviewer, ""])

/-- Asks for a revision of the plan. -/
def revisionPrompt (folder : ChangeFolder) (changeId reviewBlock : String) : String :=
  joinLines
    ["## Change ID", changeId, "", "## Review Feedback", "", reviewBlock, "", "## Task", "",
      "Address every issue above by editing the affected files under",
      "`" ++ folder.place.text ++ "` (proposal.md, specs/*.md, tasks.md). Keep the existing",
      "structure, keep `Affected specs:` in sync with the spec files, and only change",
      "what the feedback asks for.", ""]

/-- Asks for the implementation of tasks. -/
def implementationPrompt (folder : ChangeFolder) (changeId : String) (pending : List String) :
    Except FileFault String := do
  let documents ← folder.bundle
  let tasks := if pending.isEmpty then "- (all tasks)" else joinLines (pending.map ("- " ++ ·))
  .ok (joinLines
    ["## Change ID", changeId, "", "## Plan", "", documents, "", "## Task", "",
      "Implement the pending tasks below in dependency order:", tasks, "",
      "After finishing each task, set its `status` to `done` in `" ++ folder.pathText .tasks ++
        "`.", ""])

/-- The variable and the file of instructions that a provider's program looks at. -/
def instructions? : Provider → Option (String × String)
  | .gemini => some ("GEMINI_SYSTEM_MD", "GEMINI.md")
  | .codex => some ("CODEX_INSTRUCTIONS_FILE", "AGENTS.md")
  | .claude => none

/-- The variables that point an agent to its instructions for a change, if there are any. -/
def agentVariables (folder : ChangeFolder) (provider : Provider) : List (String × String) :=
  match instructions? provider with
  | some (variableName, file) =>
    if folder.files.isFile [file] then
      [(variableName, Path.text { folder.place with names := folder.place.names ++ [file] })]
    else []
  | none => []

end ChangeFolder

end PlanCycle
