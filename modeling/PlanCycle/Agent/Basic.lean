/-
Module: PlanCycle.Agent.Basic
Purpose: Agents: which programs they are, what they do, and which conversation they go on with.
Main exports:
  Provider, Role, Resume, Resume.byIndex?
-/

namespace PlanCycle

/-- The programs that can answer a prompt. -/
inductive Provider where
  | gemini
  | codex
  | claude
deriving Repr, Inhabited, DecidableEq

namespace Provider

/-- The name of a provider. -/
def name : Provider → String
  | .gemini => "gemini"
  | .codex => "codex"
  | .claude => "claude"

/-- All providers. -/
def all : List Provider := [.gemini, .codex, .claude]

/-- The provider with a name. -/
def ofName? (name : String) : Option Provider :=
  all.find? (·.name == name)

end Provider

/-- What an agent is needed for. -/
inductive Role where
  | generator
  | critic
  | implementer
deriving Repr, Inhabited, DecidableEq

namespace Role

/-- The name of a role. -/
def name : Role → String
  | .generator => "generator"
  | .critic => "critic"
  | .implementer => "implementer"

/-- The name of a role in capitals. -/
def capitals : Role → String
  | .generator => "GENERATOR"
  | .critic => "CRITIC"
  | .implementer => "IMPLEMENTER"

/-- All roles. -/
def all : List Role := [.generator, .critic, .implementer]

/-- The role with a name. -/
def ofName? (name : String) : Option Role :=
  all.find? (·.name == name)

end Role

/-- Which earlier conversation an agent call goes on with. -/
inductive Resume where
  | none
  | latest
  | index (index : Nat)
deriving Repr, Inhabited, DecidableEq

/-- The wording of the refusal of an index. -/
def Resume.indexMessage (index : Int) : String :=
  "Session index must be positive, got " ++ toString index

/-- Going on with the conversation of an index, which has to be positive. -/
def Resume.byIndex? (index : Int) : Option Resume :=
  if index < 1 then Option.none else some (.index index.toNat)

end PlanCycle
