import BuildHook.Config.Basic
import BuildHook.Process.Basic

namespace BuildHook

structure Step where
  tool : String
  target : String
  deriving DecidableEq, Inhabited

structure Plan where
  steps : List Step
  workingDir : Option OsText
  deriving DecidableEq, Inhabited

namespace Step

def argv (s : Step) : List String := [s.tool, s.target]

def text (s : Step) : String := s.tool ++ " " ++ s.target

def toJson (s : Step) : Json := .obj [("tool", .str s.tool), ("target", .str s.target)]

def ofJson? : Json → Option Step := Json.record 2 fun fields ↦ do
  let tool ← (fields.slot 0 "tool").required Json.str?
  let target ← (fields.slot 1 "target").required Json.str?
  return ⟨tool, target⟩

end Step

namespace Plan

/-- A plan must have a step. -/
def ofSteps (steps : List Step) : Except BuildError Plan :=
  if steps.isEmpty then .error .emptyPlan else .ok ⟨steps, none⟩

def ofConfig (c : HookConfig) : Except BuildError Plan :=
  (ofSteps (c.targets.map (Step.mk c.tool))).map fun p ↦ { p with workingDir := c.workingDir }

def runIn (p : Plan) (dir : OsText) : Plan := { p with workingDir := some dir }

def length (p : Plan) : Nat := p.steps.length

def isEmpty (p : Plan) : Bool := p.steps.isEmpty

def command (p : Plan) (s : Step) : Command := ⟨s.tool, [s.target], p.workingDir⟩

def toJson? (p : Plan) : Option Json := do
  let dir ← Json.option? OsText.toJson? p.workingDir
  return .obj [("steps", .list Step.toJson p.steps), ("working_dir", dir)]

/-- Reads any list of steps, an empty one as well. -/
def ofJson? : Json → Option Plan := Json.record 2 fun fields ↦ do
  let steps ← (fields.slot 0 "steps").required (Json.listOf? Step.ofJson?)
  let dir ← (fields.slot 1 "working_dir").optional OsText.ofJson?
  return ⟨steps, dir⟩

end Plan

end BuildHook
