import BuildHook.Plan
import BuildHook.Process.Basic

namespace BuildHook

structure StepRecord where
  step : Step
  status : ExitStatus
  duration : Duration
  deriving DecidableEq, Inhabited

structure HookReport where
  command : String
  records : List StepRecord
  duration : Duration
  deriving DecidableEq, Inhabited

namespace StepRecord

def toJson (r : StepRecord) : Json :=
  .obj [("step", r.step.toJson), ("status", r.status.toJson), ("duration", r.duration.toJson)]

def ofJson? : Json → Option StepRecord := Json.record 3 fun fields ↦ do
  let step ← (fields.slot 0 "step").required Step.ofJson?
  let status ← (fields.slot 1 "status").required ExitStatus.ofJson?
  let duration ← (fields.slot 2 "duration").required Duration.ofJson?
  return ⟨step, status, duration⟩

end StepRecord

namespace HookReport

def empty (command : String) : HookReport := ⟨command, [], .zero⟩

def toJson (r : HookReport) : Json :=
  .obj [("command", .str r.command), ("records", .list StepRecord.toJson r.records),
    ("duration", r.duration.toJson)]

def ofJson? : Json → Option HookReport := Json.record 3 fun fields ↦ do
  let command ← (fields.slot 0 "command").required Json.str?
  let records ← (fields.slot 1 "records").required (Json.listOf? StepRecord.ofJson?)
  let duration ← (fields.slot 2 "duration").required Duration.ofJson?
  return ⟨command, records, duration⟩

end HookReport

end BuildHook
