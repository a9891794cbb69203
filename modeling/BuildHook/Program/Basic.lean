import BuildHook.CommandLine.Help
import BuildHook.CommandLine.Parse
import BuildHook.Lifecycle.Basic
import BuildHook.Process.System
import BuildHook.Program.Session
import BuildHook.Text.Terminal

namespace BuildHook

structure Surroundings (σ : Type) where
  files : Files
  overrides : Overrides
  logFilter : Option OsText
  colored : Bool
  which : String → Option OsText
  executor : Executor σ
  clock : Nat → String
  messageId : Nat → String

/-- What others see of a run. The output of build tools is not part of it. -/
structure Transcript (σ : Type) where
  /-- There is none if the program goes on for ever. -/
  exitStatus : Option Nat
  stdout : String
  stderr : String
  world : World σ

def Outcome.complaint : Outcome → Option Error
  | .check c => if c.found then none else some (.platform (.commandNotFound c.tool))
  | _ => none

namespace Surroundings

variable {σ : Type}

def settings (s : Surroundings σ) (o : Options) : Except Error Config × List LogRecord :=
  match Config.load s.files o.config with
  | (.error e, logs) => (.error e, logs)
  | (.ok c, logs) =>
    match c.mergeEnv s.overrides with
    | (c, .ok ()) => (.ok c, logs)
    | (_, .error e) => (.error (.config e), logs)

/-- The table of a plan: its hook takes the place of the built-in command. -/
def lifecycle (s : Surroundings σ) (p : Plan) (world : World σ) :
    Lifecycle σ × Trace × World σ :=
  let (hook, world) := Hook.create p s.executor world
  let (l, trace) :=
    Lifecycle.create.listen.register (.hook { hook with context := hook.context.listen })
  (l, trace, world)

def runPhase (s : Surroundings σ) (quiet : Bool) (p : Plan) (phase : Phase) (world : World σ) :
    Ending PhaseReport × World σ × List Notice :=
  let (l, registered, world) := s.lifecycle p world
  let e := l.runPhase phase world
  let (turns, ending) := (Work.ofTrace e.ending e.trace).drive []
  (ending, e.world, Notice.ofLogs registered ++
    Notice.ofTurns s.messageId (.create quiet s.colored) 0 turns)

def work (s : Surroundings σ) (r : Request) (c : Config) (world : World σ) :
    Ending Outcome × World σ × List Notice :=
  match r.verb with
  | .check => (.ok (.check ⟨c.hook.tool, s.which c.hook.tool⟩), world, [])
  | .info => (.ok (.info c.package), world, [])
  | verb =>
    match Plan.ofConfig c.hook with
    | .error e => (.fail (.build e), world, [])
    | .ok p =>
      match verb.phase with
      | none => (.ok (.plan p), world, [])
      | some phase =>
        let (ending, world, notices) := s.runPhase r.options.json p phase world
        (ending.map .phase, world, notices)

def conclude (json : Bool) : Ending Outcome → Option String × Conclusion
  | .pending => (none, .unfinished)
  | .done (.error e) => (none, .abort (.work e))
  | .done (.ok o) =>
    match o.render json with
    | .error fault => (none, .abort (.output fault))
    | .ok text => (some text, (o.complaint.map fun e ↦ Conclusion.abort (.work e)).getD .success)

def greeting : LogRecord :=
  ⟨.info, .program, "Starting " ++ programName ++ " v" ++ programVersion, []⟩

def perform (s : Surroundings σ) (r : Request) (world : World σ) : Session σ :=
  let (settings, logs) := s.settings r.options
  let (ending, world, notices) : Ending Outcome × World σ × List Notice :=
    match settings with
    | .error e => (.fail e, world, [])
    | .ok c => s.work r c world
  let (printed, conclusion) := conclude r.options.json ending
  ⟨(greeting :: logs).map Notice.log ++ notices ++ conclusion.notices, printed, conclusion, world⟩

def misuseStatus : Nat := 2

def run (s : Surroundings σ) (args : List OsText) (world : World σ) : Transcript σ :=
  match CommandLine.parse args with
  | .error (.help page) => ⟨some 0, page.text, "", world⟩
  | .error .version => ⟨some 0, versionText, "", world⟩
  | .error (.misuse m) => ⟨some misuseStatus, "", Text.withoutControls m.text, world⟩
  | .ok r =>
    let session := s.perform r world
    ⟨session.conclusion.exitStatus, session.printed.getD "",
      Notice.texts (.choose s.logFilter r.options) s.clock session.notices, session.world⟩

end Surroundings

def Host.surroundings {τ : Type} (h : Host) (programs : Programs τ) (overrides : Overrides)
    (logFilter : Option OsText) (colored : Bool) (clock messageId : Nat → String) :
    Surroundings (Processes τ) :=
  ⟨h.files, overrides, logFilter, colored, h.which, h.executor programs, clock, messageId⟩

end BuildHook
