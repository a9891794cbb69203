import BuildHook.Json.Decode
import BuildHook.Text.Os

namespace BuildHook

structure Command where
  program : String
  args : List String
  /-- The directory to run in; the current one if there is none. -/
  dir : Option OsText
  deriving DecidableEq

namespace Command

def ofProgram (program : String) : Command := ⟨program, [], none⟩

def arg (c : Command) (a : String) : Command := { c with args := c.args ++ [a] }

def runIn (c : Command) (dir : OsText) : Command := { c with dir := some dir }

/-- The program and its arguments with a blank before each argument; nothing is quoted. -/
def text (c : Command) : String := c.args.foldl (fun s a ↦ s ++ " " ++ a) c.program

end Command

structure ExitStatus where
  exitCode : Option Int32
  deriving DecidableEq, Inhabited

namespace ExitStatus

def ofCode (code : Int32) : ExitStatus := ⟨some code⟩

def signaled : ExitStatus := ⟨none⟩

/-- Reads the word that a wait for the process gives: seven bits tell of a signal, and only where
they are zero do the next eight bits hold the exit code. -/
def ofWaitStatus (word : Int32) : ExitStatus :=
  let n := (word.toInt % 65536).toNat
  if n % 128 = 0 then ofCode (Int32.ofNat (n / 256)) else signaled

def success (s : ExitStatus) : Bool := s.exitCode = some 0

def text (s : ExitStatus) : String :=
  match s.exitCode with
  | some code => "exit status " ++ toString code
  | none => "terminated by signal"

def toJson (s : ExitStatus) : Json :=
  .obj [("exit_code", .option (fun code ↦ .int code.toInt) s.exitCode)]

def ofJson? : Json → Option ExitStatus := Json.record 1 fun fields ↦ do
  return ⟨← (fields.slot 0 "exit_code").optional Json.exitCode?⟩

end ExitStatus

end BuildHook
