import BuildHook.Effect

namespace BuildHook

structure HookContext where
  /-- The name of the lifecycle command that the hook stands for. -/
  name : String
  runId : String
  /-- Whether events have a channel to go to. -/
  listening : Bool
  deriving DecidableEq, Inhabited

structure Reporter where
  listening : Bool
  correlation : Option String
  deriving DecidableEq, Inhabited

namespace Reporter

def of (listening : Bool) : Reporter := ⟨listening, none⟩

def correlated (r : Reporter) (id : String) : Reporter := { r with correlation := some id }

/-- Nothing happens where nobody listens. -/
def emit (r : Reporter) (e : Event) : Trace :=
  if r.listening then [.send (.of e r.correlation)] else []

def perform (r : Reporter) : Action → Trace
  | .log record => [.log record]
  | .emit e => r.emit e
  | .wait => [.wait]
  | .hangUp => [.hangUp]

variable (r : Reporter)

theorem asked_emit (e : Event) : (r.emit e).asked = [] := by
  unfold emit
  split <;> rfl

theorem sent_emit (e : Event) :
    (r.emit e).sent = if r.listening then [.of e r.correlation] else [] := by
  unfold emit
  split <;> rfl

theorem asked_perform (l : List Action) : Trace.asked (l.flatMap r.perform) = [] := by
  induction l with
  | nil => rfl
  | cons a l ih =>
    rw [List.flatMap_cons, Trace.asked_append, ih]
    cases a <;> simp [perform, asked_emit]

theorem sent_perform (l : List Action) :
    Trace.sent (l.flatMap r.perform) =
      if r.listening then (Action.events l).map (.of · r.correlation) else [] := by
  induction l with
  | nil => simp [Action.events]
  | cons a l ih =>
    rw [List.flatMap_cons, Trace.sent_append, ih]
    cases a <;> cases hr : r.listening <;> simp [perform, sent_emit, Action.events, hr]

end Reporter

namespace HookContext

def create {σ : Type} (name : String) (world : World σ) : HookContext × World σ :=
  (⟨name, world.draw.1, false⟩, world.draw.2)

def listen (c : HookContext) : HookContext := { c with listening := true }

def nextRun {σ : Type} (c : HookContext) (world : World σ) : HookContext × World σ :=
  ({ c with runId := world.draw.1 }, world.draw.2)

def reporter (c : HookContext) : Reporter := (Reporter.of c.listening).correlated c.runId

def emit (c : HookContext) (e : Event) : Trace := c.reporter.emit e

@[simp]
theorem reporter_listening (c : HookContext) : c.reporter.listening = c.listening := rfl

@[simp]
theorem reporter_correlation (c : HookContext) : c.reporter.correlation = some c.runId := rfl

@[simp]
theorem asked_emit (c : HookContext) (e : Event) : (c.emit e).asked = [] :=
  c.reporter.asked_emit e

theorem sent_emit (c : HookContext) (e : Event) :
    (c.emit e).sent = if c.listening then [.of e (some c.runId)] else [] :=
  c.reporter.sent_emit e

end HookContext

end BuildHook
