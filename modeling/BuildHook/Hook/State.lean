import BuildHook.Json.Decode

namespace BuildHook

/-- Steps are counted from zero. -/
inductive HookState where
  | idle
  | running (step : Nat)
  | failed (step : Nat)
  | succeeded
  deriving DecidableEq, Inhabited

namespace HookState

def isTerminal : HookState → Bool
  | failed _ => true
  | succeeded => true
  | _ => false

/-- Whether a hook with `total` steps may go on to the next state. -/
def allows (total : Nat) : HookState → HookState → Bool
  | idle, running step => step = 0 ∧ 0 < total
  | running current, running step => step = current + 1 ∧ step < total
  | running current, failed step => step = current
  | running current, succeeded => current + 1 = total
  | _, _ => false

/-- The steps are counted from one here. -/
def text : HookState → String
  | idle => "idle"
  | running step => "running step " ++ toString (step + 1)
  | failed step => "failed at step " ++ toString (step + 1)
  | succeeded => "succeeded"

def toJson : HookState → Json
  | idle => .obj [("state", .str "idle")]
  | running step => .obj [("state", .str "running"), ("step", .nat step)]
  | failed step => .obj [("state", .str "failed"), ("step", .nat step)]
  | succeeded => .obj [("state", .str "succeeded")]

def ofJson? (v : Json) : Option HookState := do
  let (tag, fields) ← v.tagged? "state"
  let step : Option Nat := do
    guard (fields.fit 1)
    (fields.slot 0 "step").required Json.count?
  match tag with
  | "idle" => guard (fields.fit 0); return idle
  | "running" => return running (← step)
  | "failed" => return failed (← step)
  | "succeeded" => guard (fields.fit 0); return succeeded
  | _ => none

end HookState

end BuildHook
