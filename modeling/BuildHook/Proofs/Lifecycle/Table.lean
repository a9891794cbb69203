import BuildHook.Proofs.Lifecycle.Operation

namespace BuildHook

namespace Hook

variable {σ : Type} {hook : Hook σ} (hidle : hook.state = .idle) (world : World σ)

include hidle

end Hook

namespace Lifecycle

variable {σ : Type}

/-- The name stands for no command: it is told so, and nothing happens. -/
def Refuses (l : Lifecycle σ) (name : String) : Prop :=
  l.userOptions name = .error (unknown name) ∧
    ∀ world, l.runCommand name world = ⟨.fail (unknown name), l, world, []⟩

variable {l : Lifecycle σ} {name : String} {r : Registration σ}

end Lifecycle

end BuildHook
