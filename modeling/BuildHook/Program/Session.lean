import BuildHook.CommandLine.Basic
import BuildHook.Config.Load
import BuildHook.Console.Result
import BuildHook.Console.Status
import BuildHook.Log.Event
import BuildHook.Log.Filter
import BuildHook.Log.Format
import BuildHook.Program.Work

namespace BuildHook

structure Logging where
  filter : LogFilter
  style : LogStyle
  deriving DecidableEq, Inhabited

namespace Logging

def variableName : String := "RUST_LOG"

def debugFilter : LogFilter := [.all .info, ⟨"extbuild", some .debug, false⟩]

/-- A filter in the environment turns debugging on, even one that cannot be understood. -/
def choose (wanted : Option OsText) (o : Options) : Logging :=
  let text := wanted.bind OsText.toString?
  let style := if o.json then .json else .plain
  if text.isSome || o.debug then ⟨(text.bind LogFilter.parse?).getD debugFilter, style⟩
  else ⟨if o.json then [] else [.all .warn], style⟩

end Logging

inductive Notice where
  | log (r : LogRecord)
  | status (line : String)
  | report (a : Abort)
  deriving DecidableEq

inductive Conclusion where
  | success
  | abort (a : Abort)
  | unfinished
  deriving DecidableEq

structure Session (σ : Type) where
  notices : List Notice
  /-- The result that was printed. -/
  printed : Option String
  conclusion : Conclusion
  world : World σ

namespace Conclusion

/-- What a parent process sees of an exit status: eight bits. -/
def seen (status : Int) : Nat := (status % 256).toNat

def exitStatus : Conclusion → Option Nat
  | success => some 0
  | abort a => some (seen a.exitStatus)
  | unfinished => none

def notices : Conclusion → List Notice
  | abort a => [.report a]
  | _ => []

end Conclusion

namespace Notice

/-- What is shown of the turns of the loop. A message is logged before its status line; messages
are numbered, and `messageId` gives each its id. -/
def ofTurns (messageId : Nat → String) : StatusDisplay → Nat → List Turn → List Notice
  | _, _, [] => []
  | d, n, .handle m :: rest =>
    .log (.ofMessage (messageId n) m) :: ((d.handle m.event).2.map .status).toList ++
      ofTurns messageId (d.handle m.event).1 (n + 1) rest
  | d, n, .act (.log r) :: rest => .log r :: ofTurns messageId d n rest
  | d, n, _ :: rest => ofTurns messageId d n rest

def ofLogs (t : Trace) : List Notice := t.logs.map .log

def text (l : Logging) (time : String) : Notice → String
  | log r => if l.filter.enables r then r.write l.style time else ""
  | status line => line ++ "\n"
  | report a => "Error: " ++ a.report ++ "\n"

def texts (l : Logging) (clock : Nat → String) (notices : List Notice) : String :=
  String.join (notices.zipIdx.map fun n ↦ n.1.text l (clock n.2))

end Notice

end BuildHook
