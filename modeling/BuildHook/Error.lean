import BuildHook.Fault
import BuildHook.Json.Decode
import BuildHook.Text.Os

namespace BuildHook

structure Failure where
  code : Option String
  message : String
  hint : Option String
  retryable : Bool
  deriving DecidableEq, Inhabited

namespace Failure

def toJson (f : Failure) : Json :=
  .obj <| (f.code.map fun c ↦ ("code", Json.str c)).toList ++ [("message", .str f.message)] ++
    (f.hint.map fun h ↦ ("hint", Json.str h)).toList ++ [("retryable", .bool f.retryable)]

def ofJson? : Json → Option Failure := Json.record 4 fun fields ↦ do
  let code ← (fields.slot 0 "code").optional Json.str?
  let message ← (fields.slot 1 "message").required Json.str?
  let hint ← (fields.slot 2 "hint").optional Json.str?
  let retryable ← (fields.slot 3 "retryable").required Json.bool?
  return ⟨code, message, hint, retryable⟩

end Failure

inductive BuildError where
  | stepFailed (command : String) (exitCode : Option Int32) (detail : String)
  | emptyPlan
  | runInterrupted (state : String)
  | unknownCommand (name : String)
  deriving DecidableEq

inductive ConfigError where
  | notFound (path : String)
  | malformed (message : String)
  | invalidValue (field value : String)
  deriving DecidableEq

inductive PlatformError where
  | executionFailed (command message : String)
  | commandNotFound (command : String)
  deriving DecidableEq

inductive Error where
  | build (e : BuildError)
  | config (e : ConfigError)
  | platform (e : PlatformError)
  | internal (message : String)
  | system (fault : Fault) (path : Option OsText)
  deriving DecidableEq

namespace BuildError

def exited (command : String) (exitCode : Option Int32) : BuildError :=
  .stepFailed command exitCode <| match exitCode with
    | some code => "exited with status " ++ toString code
    | none => "terminated by signal"

def notStarted (command message : String) : BuildError := .stepFailed command none message

def message : BuildError → String
  | .stepFailed command _ detail => "build step `" ++ command ++ "` failed: " ++ detail
  | .emptyPlan => "build plan has no steps"
  | .runInterrupted state => "build hook run was interrupted (" ++ state ++ ")"
  | .unknownCommand name => "unknown lifecycle command: " ++ name

def code : BuildError → String
  | .stepFailed .. => "build.step_failed"
  | .emptyPlan => "build.empty_plan"
  | .runInterrupted _ => "build.run_interrupted"
  | .unknownCommand _ => "build.unknown_command"

def hint : BuildError → Option String
  | .stepFailed .. => some "See the build tool output above for the cause of the failure."
  | .emptyPlan => some "Declare at least one target under [hook] in extbuild.toml."
  | .runInterrupted _ => none
  | .unknownCommand _ =>
    some "Run `extbuild --help` to list the available lifecycle commands."

def failure (e : BuildError) : Failure := ⟨some e.code, e.message, e.hint, false⟩

end BuildError

namespace ConfigError

def message : ConfigError → String
  | .notFound path => "config file not found: " ++ path
  | .malformed message => "parse error: " ++ message
  | .invalidValue field value => "invalid value for " ++ field ++ ": " ++ value

def code : ConfigError → String
  | .notFound _ => "config.not_found"
  | .malformed _ => "config.parse_error"
  | .invalidValue .. => "config.invalid_value"

def hint : ConfigError → String
  | .notFound _ => "Check the --config path, or drop the flag to use extbuild.toml."
  | _ => "Fix the configuration value and retry the command."

def failure (e : ConfigError) : Failure := ⟨some e.code, e.message, some e.hint, false⟩

end ConfigError

namespace PlatformError

def message : PlatformError → String
  | .executionFailed command message =>
    "process execution failed: " ++ command ++ " - " ++ message
  | .commandNotFound command => "command not found: " ++ command

def code : PlatformError → String
  | .executionFailed .. => "platform.process_execution_failed"
  | .commandNotFound _ => "platform.command_not_found"

def hint : PlatformError → Option String
  | .executionFailed .. => none
  | .commandNotFound _ => some "Install the build tool or make sure it is on PATH."

def failure (e : PlatformError) : Failure := ⟨some e.code, e.message, e.hint, false⟩

/-- The step that could not start because of it, under the command that the error names. -/
def toBuildError : PlatformError → BuildError
  | .executionFailed command message => .notStarted command message
  | .commandNotFound command => .notStarted command ("command not found: " ++ command)

end PlatformError

namespace Error

def text : Error → String
  | .build e => "build error: " ++ e.message
  | .config e => "config error: " ++ e.message
  | .platform e => "platform error: " ++ e.message
  | .internal message => "internal error: " ++ message
  | .system fault _ => "I/O error: " ++ fault.message

/-- Only what the system refused is worth another try. -/
def failure : Error → Failure
  | .build e => e.failure
  | .config e => e.failure
  | .platform e => e.failure
  | .internal message => ⟨some "error.internal", (Error.internal message).text, none, false⟩
  | .system fault _ => ⟨some "error.io", fault.message, none, true⟩

def causes : Error → List String
  | .build e => [e.message]
  | .config e => [e.message]
  | .platform e => [e.message]
  | .internal _ => []
  | .system .. => []

def isStepFailure : Error → Bool
  | .build (.stepFailed ..) => true
  | _ => false

def buildFailureStatus : Int := -1

def generalFailureStatus : Int := 1

def exitStatus (e : Error) : Int :=
  if e.isStepFailure then buildFailureStatus else generalFailureStatus

end Error

inductive Abort where
  | work (e : Error)
  | output (fault : Fault)
  deriving DecidableEq

namespace Abort

def report : Abort → String
  | .work e =>
    let f := e.failure
    f.message ++ ((f.code.map ("\n  Code: " ++ ·)).getD "") ++
      ((f.hint.map ("\n  Hint: " ++ ·)).getD "")
  | .output fault => "I/O error: " ++ fault.message

def exitStatus : Abort → Int
  | .work e => e.exitStatus
  | .output _ => Error.generalFailureStatus

def causes : Abort → List String
  | .work e => e.text :: e.causes
  | .output fault => [fault.message]

end Abort

end BuildHook
