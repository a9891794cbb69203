import BuildHook.Duration
import BuildHook.Error
import BuildHook.NameMap

namespace BuildHook

inductive Level where
  | trace
  | debug
  | info
  | warn
  | error
  deriving DecidableEq, Inhabited

inductive BuildEvent where
  | hookStarted (hook : String) (totalSteps : Nat)
  | stepStarted (index : Nat) (command : String)
  | stepCompleted (index : Nat) (command : String) (exitCode : Int32) (duration : Duration)
  | stepFailed (index : Nat) (command : String) (exitCode : Option Int32) (skipped : Nat)
      (failure : Failure)
  | hookCompleted (hook : String) (stepsRun : Nat) (duration : Duration)
  | hookFailed (hook : String) (failure : Failure)
  | phaseCompleted (phase : String) (commands : List String)
  deriving DecidableEq, Inhabited

structure Diagnostic where
  message : String
  context : NameMap String
  deriving DecidableEq, Inhabited

inductive Event where
  | general (d : Diagnostic)
  | build (e : BuildEvent)
  deriving DecidableEq, Inhabited

namespace Level

def name : Level → String
  | trace => "trace"
  | debug => "debug"
  | info => "info"
  | warn => "warn"
  | error => "error"

def label : Level → String
  | trace => "TRACE"
  | debug => "DEBUG"
  | info => "INFO"
  | warn => "WARN"
  | error => "ERROR"

def rank : Level → Nat
  | trace => 0
  | debug => 1
  | info => 2
  | warn => 3
  | error => 4

instance : LT Level := ⟨fun a b ↦ a.rank < b.rank⟩

instance : LE Level := ⟨fun a b ↦ a.rank ≤ b.rank⟩

instance (a b : Level) : Decidable (a < b) := inferInstanceAs (Decidable (a.rank < b.rank))

instance (a b : Level) : Decidable (a ≤ b) := inferInstanceAs (Decidable (a.rank ≤ b.rank))

def ofName? : String → Option Level
  | "trace" => some trace
  | "debug" => some debug
  | "info" => some info
  | "warn" => some warn
  | "error" => some error
  | _ => none

end Level

namespace Event

def generalSource : String := "general"

def buildSource : String := "build"

def source : Event → String
  | general _ => generalSource
  | build _ => buildSource

/-- Only the end of a failed step or hook is an error. -/
def level : Event → Level
  | build (.stepFailed ..) => .error
  | build (.hookFailed ..) => .error
  | build _ => .info
  | general _ => .debug

end Event

structure Message where
  level : Level
  source : String
  correlation : Option String
  event : Event
  deriving DecidableEq, Inhabited

namespace Message

def of (event : Event) (correlation : Option String) : Message :=
  ⟨event.level, event.source, correlation, event⟩

end Message

end BuildHook
