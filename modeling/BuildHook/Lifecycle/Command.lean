import BuildHook.Hook.Basic

namespace BuildHook

structure UserOption where
  long : String
  short : Option Char
  help : String
  deriving DecidableEq, Inhabited

/-- A project's own command; what it answers may differ from one invocation to the next. -/
structure CustomCommand where
  name : String
  options : List UserOption
  finalizes : Nat → Except Error Unit
  runs : Nat → Ending HookReport
  /-- How many invocations there have been. -/
  invoked : Nat

inductive LifecycleCommand (σ : Type) where
  | builtin
  | hook (h : Hook σ)
  | custom (c : CustomCommand)

namespace UserOption

def toJson (o : UserOption) : Json :=
  .obj [("long", .str o.long), ("short", .option (fun c ↦ .str c.toString) o.short),
    ("help", .str o.help)]

end UserOption

namespace LifecycleCommand

variable {σ : Type}

def name : LifecycleCommand σ → String
  | builtin => Phase.buildCommand
  | hook h => h.context.name
  | custom c => c.name

def options : LifecycleCommand σ → List UserOption
  | custom c => c.options
  | _ => []

def origin : LifecycleCommand σ → Origin
  | builtin => .builtin
  | hook _ => .hook
  | custom _ => .custom

def finalize : LifecycleCommand σ → Except Error Unit
  | custom c => c.finalizes c.invoked
  | _ => .ok ()

def run (command : LifecycleCommand σ) (world : World σ) :
    Episode σ (LifecycleCommand σ) HookReport :=
  match command with
  | builtin =>
    ⟨.ok (.empty Phase.buildCommand), builtin, world,
      [.log ⟨.debug, .lifecycle, "no extension modules to build", []⟩]⟩
  | hook h =>
    let e := h.run world
    ⟨e.ending, hook e.subject, e.world, e.trace⟩
  | custom c => ⟨c.runs c.invoked, custom { c with invoked := c.invoked + 1 }, world, []⟩

/-- The command after an invocation that did not come to its work. -/
def skip : LifecycleCommand σ → LifecycleCommand σ
  | custom c => custom { c with invoked := c.invoked + 1 }
  | command => command

def invoke (command : LifecycleCommand σ) (receiver : Receiver) (world : World σ) :
    Episode σ (LifecycleCommand σ) HookReport :=
  let opening := [.call receiver .initOptions, .call receiver .finalizeOptions]
  match command.finalize with
  | .error e => ⟨.fail e, command.skip, world, opening⟩
  | .ok () =>
    let e := command.run world
    { e with trace := opening ++ .call receiver .run :: e.trace }

end LifecycleCommand

end BuildHook
