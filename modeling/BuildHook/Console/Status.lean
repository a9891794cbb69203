import BuildHook.Event.Basic

namespace BuildHook

structure StatusDisplay where
  quiet : Bool
  colored : Bool
  /-- How many steps the run has, as far as is known. -/
  total : Nat
  deriving DecidableEq, Inhabited

inductive Emphasis where
  | bold
  | green
  | red
  deriving DecidableEq, Inhabited

def Emphasis.code : Emphasis → String
  | bold => "1"
  | green => "32"
  | red => "31"

namespace StatusDisplay

def create (quiet colored : Bool) : StatusDisplay := ⟨quiet, colored, 0⟩

def style (d : StatusDisplay) (e : Emphasis) (s : String) : String :=
  if d.colored then "\x1b[" ++ e.code ++ "m" ++ s ++ "\x1b[0m" else s

def statusText : Option Int32 → String
  | some code => "exit status " ++ toString code
  | none => "no exit status"

def startedLine (total index : Nat) (command : String) : String :=
  "==> [" ++ toString (index + 1) ++ "/" ++ toString total ++ "] " ++ command

def failedLine (command : String) (exitCode : Option Int32) (skipped : Nat) : String :=
  command ++ " failed (" ++ statusText exitCode ++ ")" ++
    if skipped = 0 then "" else ", skipping " ++ toString skipped ++ " remaining step(s)"

def completedLine (stepsRun : Nat) : String :=
  "build_ext finished: " ++ toString stepsRun ++ " step(s) succeeded"

def line (d : StatusDisplay) : Event → Option String
  | .build (.stepStarted index command) => some (d.style .bold (startedLine d.total index command))
  | .build (.stepFailed _ command exitCode skipped _) =>
    some (d.style .red (failedLine command exitCode skipped))
  | .build (.hookCompleted _ stepsRun _) => some (d.style .green (completedLine stepsRun))
  | _ => none

/-- Takes an event; a run that starts tells how many steps it has. -/
def handle (d : StatusDisplay) (e : Event) : StatusDisplay × Option String :=
  if d.quiet then (d, none)
  else match e with
    | .build (.hookStarted _ total) => ({ d with total }, none)
    | e => (d, d.line e)

end StatusDisplay

end BuildHook
