import BuildHook.Proofs.Lifecycle.Operation

namespace BuildHook

namespace Hook

variable {σ : Type}

end Hook

namespace LifecycleCommand

variable {σ : Type} (c : LifecycleCommand σ)

end LifecycleCommand

namespace Lifecycle

variable {σ : Type}

def trace (l : Lifecycle σ) : List (Operation σ) → Trace
  | [] => []
  | op :: rest => (l.perform op).2 ++ (l.perform op).1.trace rest

theorem after_invariant {P : Lifecycle σ → Prop} (hstep : ∀ l op, P l → P (l.perform op).1)
    {l : Lifecycle σ} (h : P l) (ops : List (Operation σ)) : P (l.after ops) := by
  induction ops generalizing l with
  | nil => exact h
  | cons op rest ih => exact ih (hstep l op h)

section Steps

variable {l : Lifecycle σ} {name : String} {r : Registration σ}

end Steps

/-- The numbers tell the commands of the table apart, and the next one is still free. -/
structure Numbered (l : Lifecycle σ) : Prop where
  lt : ∀ {name r}, l.table.get? name = some r → r.serial < l.registered
  name_eq : ∀ {name key r s}, l.table.get? name = some r → l.table.get? key = some s →
    r.serial = s.serial → name = key

def Replaced (l : Lifecycle σ) (serial : Nat) : Prop :=
  serial < l.registered ∧ ∀ name r, l.table.get? name = some r → r.serial ≠ serial

section Invariants

variable {l : Lifecycle σ} {name : String} {r : Registration σ} {op : Operation σ}

theorem registered_le_perform (l : Lifecycle σ) (op : Operation σ) :
    l.registered ≤ (l.perform op).1.registered := by
  rw [registered_perform]
  exact Nat.le_add_right _ _

theorem entry_cases (h : (l.perform op).1.table.get? name = some r) :
    (op.registers name = true ∧ r.serial = l.registered ∧
      (l.perform op).1.registered = l.registered + 1) ∨
    (op.registers name = false ∧ ∃ old, l.table.get? name = some old ∧ r.serial = old.serial) := by
  cases hreg : op.registers name with
  | true =>
    obtain ⟨c, rfl, rfl⟩ := Operation.exists_of_registers hreg
    rw [perform, get?_register, if_pos rfl] at h
    cases h
    exact .inl ⟨rfl, rfl, rfl⟩
  | false =>
    rw [get?_perform hreg] at h
    obtain ⟨old, hold, rfl⟩ := Option.map_eq_some_iff.1 h
    exact .inr ⟨rfl, old, hold, rfl⟩

theorem Numbered.perform (h : l.Numbered) (op : Operation σ) : (l.perform op).1.Numbered where
  lt hr := by
    rcases entry_cases hr with ⟨-, hserial, hnext⟩ | ⟨-, old, hold, hserial⟩
    · omega
    · have hlt := h.lt hold
      have hle := registered_le_perform l op
      omega
  name_eq hr hs heq := by
    rcases entry_cases hr with ⟨hname, hserial, -⟩ | ⟨-, old, hold, hserial⟩ <;>
    rcases entry_cases hs with ⟨hkey, hserial', -⟩ | ⟨-, old', hold', hserial'⟩
    · exact Operation.eq_of_registers hname hkey
    · have hlt := h.lt hold'
      omega
    · have hlt := h.lt hold
      omega
    · exact h.name_eq hold hold' (by omega)

theorem Replaced.perform {serial : Nat} (h : l.Replaced serial) (op : Operation σ) :
    (l.perform op).1.Replaced serial := by
  obtain ⟨hlt, hgone⟩ := h
  refine ⟨Nat.lt_of_lt_of_le hlt (registered_le_perform l op), fun name r hr ↦ ?_⟩
  rcases entry_cases hr with ⟨-, hserial, -⟩ | ⟨-, old, hold, hserial⟩
  · omega
  · rw [hserial]
    exact hgone name old hold

theorem Replaced.after {serial : Nat} (h : l.Replaced serial) (ops : List (Operation σ)) :
    (l.after ops).Replaced serial :=
  after_invariant (P := fun later ↦ later.Replaced serial) (fun _ op h ↦ h.perform op) h ops

theorem Numbered.replaced (h : l.Numbered) (hr : l.table.get? name = some r)
    (hreg : op.registers name = true) : (l.perform op).1.Replaced r.serial := by
  have hlt := h.lt hr
  refine ⟨Nat.lt_of_lt_of_le hlt (registered_le_perform l op), fun key s hs ↦ ?_⟩
  rcases entry_cases hs with ⟨-, hserial, -⟩ | ⟨hkey, old, hold, hserial⟩
  · omega
  · -- an old entry of the same number would be of the same name, and that one is new
    intro heq
    have hname := h.name_eq hr hold (by omega)
    rw [← hname, hreg] at hkey
    nomatch hkey

end Invariants

section Phases

variable {l : Lifecycle σ} {name : String} {world : World σ}

end Phases

section Registrations

variable {earlier later : List (Operation σ)} {c : LifecycleCommand σ}

end Registrations

end Lifecycle

end BuildHook
