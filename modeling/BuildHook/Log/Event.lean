import BuildHook.Log.Record
import BuildHook.Text.Basic

namespace BuildHook.LogRecord

def origin (m : Message) : List (String × Detail) :=
  [("source", .text m.source), ("correlation", .shown (Text.quotedOption m.correlation))]

def context (c : NameMap String) : String :=
  "\x7b" ++ ", ".intercalate (c.entries.map fun e ↦ Text.quoted e.1 ++ ": " ++ Text.quoted e.2) ++
    "\x7d"

def ofMessage (id : String) (m : Message) : LogRecord :=
  match m.event with
  | .build (.hookStarted hook totalSteps) =>
    ⟨.info, .events, "Hook started", [("source", .text m.source), ("event_id", .shown id),
      ("correlation", .shown (Text.quotedOption m.correlation)), ("hook", .shown hook),
      ("total_steps", .count totalSteps)]⟩
  | .build (.stepStarted index command) =>
    ⟨.info, .events, "Build step started",
      origin m ++ [("index", .count index), ("command", .shown command)]⟩
  | .build (.stepCompleted index command exitCode duration) =>
    ⟨.info, .events, "Build step completed",
      origin m ++ [("index", .count index), ("command", .shown command),
        ("exit_code", .number exitCode.toInt), ("duration_ms", .shown (toString duration.millis))]⟩
  | .build (.stepFailed index command exitCode skipped failure) =>
    ⟨.debug, .events, "Build step failed",
      origin m ++ [("index", .count index), ("command", .shown command),
        ("exit_code", .exitCode exitCode), ("skipped", .count skipped),
        ("code", .shown (Text.quotedOption failure.code)), ("message", .shown failure.message)]⟩
  | .build (.hookCompleted hook stepsRun duration) =>
    ⟨.info, .events, "Hook completed",
      origin m ++ [("hook", .shown hook), ("steps_run", .count stepsRun),
        ("duration_ms", .shown (toString duration.millis))]⟩
  | .build (.hookFailed hook failure) =>
    ⟨.debug, .events, "Hook failed",
      origin m ++ [("hook", .shown hook), ("code", .shown (Text.quotedOption failure.code)),
        ("message", .shown failure.message), ("hint", .shown (Text.quotedOption failure.hint))]⟩
  | .build (.phaseCompleted phase commands) =>
    ⟨.info, .events, "Lifecycle phase completed",
      [("source", .text m.source), ("phase", .shown phase),
        ("commands", .shown (Text.quotedList commands))]⟩
  | .general d =>
    ⟨.debug, .events, d.message,
      [("source", .text m.source), ("context", .shown (context d.context))]⟩

end BuildHook.LogRecord
