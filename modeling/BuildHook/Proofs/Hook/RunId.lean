import BuildHook.Proofs.Hook.Safety
import BuildHook.Proofs.Hook.Stream

namespace BuildHook

namespace Hook

variable {σ : Type}

/-- The ids that are drawn in the course of calls, one by each call that starts over. -/
def drawn (hook : Hook σ) : List (World σ) → List String
  | [] => []
  | world :: rest =>
    (if hook.state.isTerminal then [world.draw.1] else []) ++ (hook.run world).subject.drawn rest

section Steps

variable {hook : Hook σ} (hplan : hook.plan.steps ≠ [])

include hplan

end Steps

end Hook

end BuildHook
