import BuildHook.Error
import BuildHook.Log.Record
import BuildHook.Process.Basic

namespace BuildHook

inductive Action where
  | log (r : LogRecord)
  | emit (e : Event)
  /-- Lets others go on until there is news of the process. -/
  | wait
  /-- The receiving end of the event channel goes away meanwhile. -/
  | hangUp
  deriving DecidableEq, Inhabited

def Action.events (l : List Action) : List Event := l.filterMap fun
  | .emit e => some e
  | _ => none

inductive Answer where
  | ended (status : ExitStatus)
  | refused (e : Error)
  | never
  deriving DecidableEq, Inhabited

structure Reply where
  actions : List Action
  answer : Answer
  elapsed : Duration
  deriving DecidableEq, Inhabited

/-- Its answer depends on the command and on what it was asked before, never on the listeners. -/
abbrev Executor (σ : Type) := σ → Command → Reply × σ

/-- What lies outside a hook: the state of the executor, and the ids that nobody has used yet. -/
structure World (σ : Type) where
  tools : σ
  fresh : Nat → String

namespace World

variable {σ : Type}

/-- A new id. No id comes twice if the ids ahead differ. -/
def draw (w : World σ) : String × World σ :=
  (w.fresh 0, { w with fresh := fun n ↦ w.fresh (n + 1) })

end World

end BuildHook
