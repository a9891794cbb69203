import BuildHook.Event.Basic
import BuildHook.Json.Decode

namespace BuildHook

namespace BuildEvent

def tag : BuildEvent → String
  | hookStarted .. => "hook_started"
  | stepStarted .. => "step_started"
  | stepCompleted .. => "step_completed"
  | stepFailed .. => "step_failed"
  | hookCompleted .. => "hook_completed"
  | hookFailed .. => "hook_failed"
  | phaseCompleted .. => "phase_completed"

def members : BuildEvent → List (String × Json)
  | hookStarted hook totalSteps => [("hook", .str hook), ("total_steps", .nat totalSteps)]
  | stepStarted index command => [("index", .nat index), ("command", .str command)]
  | stepCompleted index command exitCode duration =>
    [("index", .nat index), ("command", .str command), ("exit_code", .int exitCode.toInt),
      ("duration", duration.toJson)]
  | stepFailed index command exitCode skipped failure =>
    [("index", .nat index), ("command", .str command),
      ("exit_code", .option (fun code ↦ .int code.toInt) exitCode), ("skipped", .nat skipped),
      ("failure", failure.toJson)]
  | hookCompleted hook stepsRun duration =>
    [("hook", .str hook), ("steps_run", .nat stepsRun), ("duration", duration.toJson)]
  | hookFailed hook failure => [("hook", .str hook), ("failure", failure.toJson)]
  | phaseCompleted phase commands => [("phase", .str phase), ("commands", .strings commands)]

def toJson (e : BuildEvent) : Json := .obj (("type", .str e.tag) :: e.members)

def ofFields? (tag : String) (fields : Json.Fields) : Option BuildEvent :=
  match tag with
  | "hook_started" => do
    guard (fields.fit 2)
    let hook ← (fields.slot 0 "hook").required Json.str?
    let totalSteps ← (fields.slot 1 "total_steps").required Json.count?
    return hookStarted hook totalSteps
  | "step_started" => do
    guard (fields.fit 2)
    let index ← (fields.slot 0 "index").required Json.count?
    let command ← (fields.slot 1 "command").required Json.str?
    return stepStarted index command
  | "step_completed" => do
    guard (fields.fit 4)
    let index ← (fields.slot 0 "index").required Json.count?
    let command ← (fields.slot 1 "command").required Json.str?
    let exitCode ← (fields.slot 2 "exit_code").required Json.exitCode?
    let duration ← (fields.slot 3 "duration").required Duration.ofJson?
    return stepCompleted index command exitCode duration
  | "step_failed" => do
    guard (fields.fit 5)
    let index ← (fields.slot 0 "index").required Json.count?
    let command ← (fields.slot 1 "command").required Json.str?
    let exitCode ← (fields.slot 2 "exit_code").optional Json.exitCode?
    let skipped ← (fields.slot 3 "skipped").required Json.count?
    let failure ← (fields.slot 4 "failure").required Failure.ofJson?
    return stepFailed index command exitCode skipped failure
  | "hook_completed" => do
    guard (fields.fit 3)
    let hook ← (fields.slot 0 "hook").required Json.str?
    let stepsRun ← (fields.slot 1 "steps_run").required Json.count?
    let duration ← (fields.slot 2 "duration").required Duration.ofJson?
    return hookCompleted hook stepsRun duration
  | "hook_failed" => do
    guard (fields.fit 2)
    let hook ← (fields.slot 0 "hook").required Json.str?
    let failure ← (fields.slot 1 "failure").required Failure.ofJson?
    return hookFailed hook failure
  | "phase_completed" => do
    guard (fields.fit 2)
    let phase ← (fields.slot 0 "phase").required Json.str?
    let commands ← (fields.slot 1 "commands").required Json.strings?
    return phaseCompleted phase commands
  | _ => none

def ofJson? (v : Json) : Option BuildEvent := do
  let (tag, fields) ← v.tagged? "type"
  ofFields? tag fields

end BuildEvent

namespace Diagnostic

def contextToJson (m : NameMap String) : Json :=
  .obj (m.entries.map fun e ↦ (e.1, .str e.2))

/-- Of two details with one name the later counts. -/
def contextOfJson? : Json → Option (NameMap String)
  | .obj members => do
    let entries ← members.mapM fun m ↦ m.2.str?.map fun s ↦ (m.1, s)
    return .ofList entries
  | _ => none

def toJson (d : Diagnostic) : Json :=
  .obj [("type", .str "DebugLog"), ("message", .str d.message),
    ("context", contextToJson d.context)]

def ofJson? (v : Json) : Option Diagnostic := do
  let (tag, fields) ← v.tagged? "type"
  guard (tag = "DebugLog")
  guard (fields.fit 2)
  let message ← (fields.slot 0 "message").required Json.str?
  let context ← (fields.slot 1 "context").required contextOfJson?
  return ⟨message, context⟩

end Diagnostic

namespace Event

def toJson : Event → Json
  | general d => .obj [("domain", .str "general"), ("event", d.toJson)]
  | build e => .obj [("domain", .str "build"), ("event", e.toJson)]

def ofJson? : Json → Option Event := Json.record 2 fun fields ↦ do
  match ← (fields.slot 0 "domain").required Json.str? with
  | "general" => (fields.slot 1 "event").required fun v ↦ (Diagnostic.ofJson? v).map general
  | "build" => (fields.slot 1 "event").required fun v ↦ (BuildEvent.ofJson? v).map build
  | _ => none

end Event

namespace Level

def toJson (l : Level) : Json := .str l.name

def ofJson? (v : Json) : Option Level := v.choice?.bind ofName?

end Level

end BuildHook
