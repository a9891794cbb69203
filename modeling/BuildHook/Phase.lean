import BuildHook.Error
import BuildHook.Hook.Report

namespace BuildHook

inductive Phase where
  | buildExt
  | build
  | install
  deriving DecidableEq, Inhabited

structure PhaseReport where
  phase : Phase
  reports : List HookReport
  deriving DecidableEq, Inhabited

namespace Phase

def buildCommand : String := "build_ext"

def commands : Phase → List String
  | _ => [buildCommand]

def name : Phase → String
  | buildExt => "build_ext"
  | build => "build"
  | install => "install"

def ofName? : String → Option Phase
  | "build_ext" => some buildExt
  | "build" => some build
  | "install" => some install
  | _ => none

/-- Reads what a user wrote; the first phase has a second spelling with a hyphen. -/
def parse (s : String) : Except BuildError Phase :=
  if s = "build-ext" then .ok buildExt
  else match ofName? s with
    | some p => .ok p
    | none => .error (.unknownCommand s)

def toJson (p : Phase) : Json := .str p.name

def ofJson? (v : Json) : Option Phase := v.choice?.bind ofName?

end Phase

namespace PhaseReport

def stepsRun (r : PhaseReport) : Nat := (r.reports.flatMap HookReport.records).length

def toJson (r : PhaseReport) : Json :=
  .obj [("phase", r.phase.toJson), ("reports", .list HookReport.toJson r.reports)]

end PhaseReport

end BuildHook
