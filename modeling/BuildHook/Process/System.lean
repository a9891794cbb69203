import BuildHook.Host.Basic
import BuildHook.Process.Executor

namespace BuildHook

structure Invocation where
  program : Place
  dir : Place
  args : List String
  deriving DecidableEq, Inhabited

structure Run where
  status : ExitStatus
  output : String
  elapsed : Duration
  deriving DecidableEq, Inhabited

/-- How programs behave; what they did before may matter. -/
abbrev Programs (τ : Type) := τ → Invocation → Run × τ

structure Processes (τ : Type) where
  state : τ
  invoked : List Invocation
  output : String

namespace Host

/-- Where a command leads, or why it cannot start: no argument can hold a NUL, and the folder must
be there before the program is looked for. -/
def prepare (h : Host) (c : Command) : Except Fault Invocation := do
  let path := OsText.ofString c.program
  if path.hasNul || c.args.any (fun a ↦ (OsText.ofString a).hasNul) ||
      (c.dir.map OsText.hasNul).getD false then .error .nulInArgument
  let dir ← h.enter c.dir
  let program ← h.locate dir c.program
  return ⟨program, dir, c.args⟩

def spawning (c : Command) : Event :=
  .general ⟨"spawning process", .ofList (("command", c.text) ::
    (c.dir.map fun dir ↦ ("cwd", dir.display)).toList)⟩

def exited (c : Command) (r : Run) : LogRecord :=
  ⟨.debug, .process, "process exited", [("command", .shown c.text),
    ("exit_code", .exitCode r.status.exitCode),
    ("elapsed_ms", .shown (toString r.elapsed.millis))]⟩

def executor {τ : Type} (h : Host) (programs : Programs τ) : Executor (Processes τ) :=
  fun processes c ↦
    match h.prepare c with
    | .error fault =>
      (⟨[.emit (spawning c)], .refused (.platform (.executionFailed c.text fault.message)), .zero⟩,
        processes)
    | .ok invocation =>
      let (r, state) := programs processes.state invocation
      (⟨[.emit (spawning c), .wait, .log (exited c r)], .ended r.status, r.elapsed⟩,
        ⟨state, processes.invoked ++ [invocation], processes.output ++ r.output⟩)

end Host

end BuildHook
