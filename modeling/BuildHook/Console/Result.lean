import BuildHook.Console.Table
import BuildHook.Phase

namespace BuildHook

structure ToolCheck where
  tool : String
  path : Option OsText
  deriving DecidableEq, Inhabited

inductive Outcome where
  | phase (r : PhaseReport)
  | plan (p : Plan)
  | check (c : ToolCheck)
  | info (p : Package)
  deriving DecidableEq, Inhabited

namespace ToolCheck

def found (c : ToolCheck) : Bool := c.path.isSome

def toJson? (c : ToolCheck) : Option Json := do
  return .obj [("tool", .str c.tool), ("path", ← Json.option? OsText.toJson? c.path)]

def text (c : ToolCheck) : String :=
  match c.path with
  | some path => "[OK] " ++ c.tool ++ " found at " ++ path.display
  | none => "[ERROR] " ++ c.tool ++ " not found on PATH"

end ToolCheck

namespace Outcome

def kind : Outcome → String
  | phase _ => "phase"
  | plan _ => "plan"
  | check _ => "check"
  | info _ => "info"

def resultJson? : Outcome → Option Json
  | phase r => some r.toJson
  | plan p => p.toJson?
  | check c => c.toJson?
  | info p => some p.toJson

/-- Cannot be written if there is a path in it that is not text. -/
def toJson? (o : Outcome) : Option Json := do
  return .obj [("kind", .str o.kind), ("result", ← o.resultJson?)]

def numbered (rows : List (List String)) : List (List String) :=
  rows.zipIdx.map fun r ↦ toString (r.2 + 1) :: r.1

def phaseTable (r : PhaseReport) : Table where
  header := ["Step", "Command", "Status", "Duration"]
  rows := numbered <| (r.reports.flatMap HookReport.records).map fun record ↦
    [record.step.text, record.status.text, toString record.duration.millis ++ "ms"]

def planTable (p : Plan) : Table where
  header := ["Step", "Tool", "Target"]
  rows := numbered (p.steps.map Step.argv)

def infoTable (p : Package) : Table where
  header := ["Field", "Value"]
  rows := [["Name", p.name], ["Version", p.version], ["Description", p.description],
    ["URL", p.url.getD "-"], ["Author", p.author.getD "-"], ["License", p.license],
    ["Packages", ", ".intercalate p.packages]]

def phaseText (r : PhaseReport) : String :=
  if r.stepsRun = 0 then "[OK] " ++ r.phase.name ++ ": nothing to build"
  else (phaseTable r).text ++ "\n[OK] " ++ r.phase.name ++ " completed"

def text : Outcome → String
  | phase r => phaseText r
  | plan p => (planTable p).text
  | check c => c.text
  | info p => (infoTable p).text

def render (json : Bool) (o : Outcome) : Except Fault String :=
  if json then
    match o.toJson? with
    | some v => .ok (v.pretty 0 ++ "\n")
    | none => .error .unwritablePath
  else .ok (o.text ++ "\n")

end Outcome

end BuildHook
