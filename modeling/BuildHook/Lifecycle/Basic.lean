import BuildHook.Lifecycle.Command
import BuildHook.Text.Basic

namespace BuildHook

structure Registration (σ : Type) where
  serial : Nat
  command : LifecycleCommand σ

structure Lifecycle (σ : Type) where
  table : NameMap (Registration σ)
  listening : Bool
  /-- How many commands have been registered. -/
  registered : Nat

namespace Lifecycle

variable {σ : Type}

def record (level : Level) (message : String) (details : List (String × Detail)) : Effect :=
  .log ⟨level, .lifecycle, message, details⟩

def register (l : Lifecycle σ) (command : LifecycleCommand σ) : Lifecycle σ × Trace :=
  let name := command.name
  (⟨l.table.insert name ⟨l.registered, command⟩, l.listening, l.registered + 1⟩,
    if l.table.contains name then
      [record .debug "replaced lifecycle command" [("command", .shown name)]]
    else [])

def create : Lifecycle σ := ((⟨.empty, false, 0⟩ : Lifecycle σ).register .builtin).1

def listen (l : Lifecycle σ) : Lifecycle σ := { l with listening := true }

def commandNames (l : Lifecycle σ) : List String := l.table.names

def unknown (name : String) : Error := .build (.unknownCommand name)

def userOptions (l : Lifecycle σ) (name : String) : Except Error (List UserOption) :=
  match l.table.get? name with
  | some r => .ok r.command.options
  | none => .error (unknown name)

def runCommand (l : Lifecycle σ) (name : String) (world : World σ) :
    Episode σ (Lifecycle σ) HookReport :=
  match l.table.get? name with
  | none => ⟨.fail (unknown name), l, world, []⟩
  | some r =>
    let e := r.command.invoke ⟨r.serial, name, r.command.origin⟩ world
    ⟨e.ending, { l with table := l.table.insert name ⟨r.serial, e.subject⟩ }, e.world,
      record .info "running lifecycle command" [("command", .shown name)] :: e.trace⟩

/-- Invokes commands in order, up to the first that gives no report. -/
def runCommands (l : Lifecycle σ) :
    List String → World σ → Episode σ (Lifecycle σ) (List HookReport)
  | [], world => ⟨.ok [], l, world, []⟩
  | name :: rest, world =>
    match l.runCommand name world with
    | ⟨.pending, l, world, trace⟩ => ⟨.pending, l, world, trace⟩
    | ⟨.done (.error e), l, world, trace⟩ => ⟨.fail e, l, world, trace⟩
    | ⟨.done (.ok report), l, world, trace⟩ =>
      let later := l.runCommands rest world
      { later with ending := later.ending.map (report :: ·), trace := trace ++ later.trace }

/-- Runs a phase. That it is complete is told under no run id, since it may hold several runs. -/
def runPhase (l : Lifecycle σ) (phase : Phase) (world : World σ) :
    Episode σ (Lifecycle σ) PhaseReport :=
  match l.runCommands phase.commands world with
  | ⟨.pending, l, world, trace⟩ => ⟨.pending, l, world, trace⟩
  | ⟨.done (.error e), l, world, trace⟩ => ⟨.fail e, l, world, trace⟩
  | ⟨.done (.ok reports), l, world, trace⟩ =>
    ⟨.ok ⟨phase, reports⟩, l, world, trace ++ (Reporter.of l.listening).emit
      (.build (.phaseCompleted phase.name (reports.map HookReport.command)))⟩

def text (l : Lifecycle σ) : String :=
  "Lifecycle \x7b commands: " ++ Text.quotedList l.commandNames ++ ", .. \x7d"

end Lifecycle

end BuildHook
