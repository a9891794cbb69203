import BuildHook.Process.Executor

namespace BuildHook

inductive Call where
  | initOptions
  | finalizeOptions
  | run
  deriving DecidableEq, Inhabited

inductive Origin where
  | builtin
  | hook
  | custom
  deriving DecidableEq, Inhabited

/-- One command of a table; the serial number tells it from others of its name. -/
structure Receiver where
  serial : Nat
  name : String
  origin : Origin
  deriving DecidableEq, Inhabited

inductive Effect where
  | log (r : LogRecord)
  | send (m : Message)
  /-- The executor is asked to run the command. -/
  | ask (c : Command)
  | call (receiver : Receiver) (c : Call)
  | wait
  | hangUp
  deriving DecidableEq, Inhabited

abbrev Trace := List Effect

namespace Trace

def logs (t : Trace) : List LogRecord := t.filterMap fun
  | .log r => some r
  | _ => none

def sent (t : Trace) : List Message := t.filterMap fun
  | .send m => some m
  | _ => none

/-- The messages that came before the receiver went away. -/
def received (t : Trace) : List Message := sent (t.takeWhile (· ≠ .hangUp))

def asked (t : Trace) : List Command := t.filterMap fun
  | .ask c => some c
  | _ => none

def calls (t : Trace) : List (Receiver × Call) := t.filterMap fun
  | .call receiver c => some (receiver, c)
  | _ => none

@[simp]
theorem asked_nil : asked [] = [] := rfl

@[simp]
theorem asked_cons (e : Effect) (t : Trace) :
    asked (e :: t) = match e with
      | .ask c => c :: asked t
      | _ => asked t := by
  cases e <;> rfl

@[simp]
theorem asked_append (t u : Trace) : asked (t ++ u) = asked t ++ asked u :=
  List.filterMap_append

@[simp]
theorem sent_nil : sent [] = [] := rfl

@[simp]
theorem sent_cons (e : Effect) (t : Trace) :
    sent (e :: t) = match e with
      | .send m => m :: sent t
      | _ => sent t := by
  cases e <;> rfl

@[simp]
theorem sent_append (t u : Trace) : sent (t ++ u) = sent t ++ sent u :=
  List.filterMap_append

@[simp]
theorem calls_nil : calls [] = [] := rfl

@[simp]
theorem calls_cons (e : Effect) (t : Trace) :
    calls (e :: t) = match e with
      | .call receiver c => (receiver, c) :: calls t
      | _ => calls t := by
  cases e <;> rfl

theorem received_eq_sent {t : Trace} (h : .hangUp ∉ t) : received t = sent t := by
  induction t with
  | nil => rfl
  | cons e t ih =>
    simp only [List.mem_cons, not_or] at h
    obtain ⟨he, ht⟩ := h
    have hstay : received (e :: t) = sent (e :: t.takeWhile (· ≠ .hangUp)) := by
      rw [received, List.takeWhile_cons_of_pos (by simpa using Ne.symm he)]
    rw [hstay, sent_cons, sent_cons, ← ih ht, received]

end Trace

/-- How a piece of work stands: done, with a result or an error, or still under way. -/
inductive Ending (α : Type) where
  | done (r : Except Error α)
  | pending
  deriving Inhabited

namespace Ending

variable {α β : Type}

def ok (a : α) : Ending α := .done (.ok a)

def fail (e : Error) : Ending α := .done (.error e)

def map (f : α → β) : Ending α → Ending β
  | done r => .done (r.map f)
  | pending => .pending

@[simp]
theorem map_ok (f : α → β) (a : α) : (ok a).map f = ok (f a) := rfl

@[simp]
theorem map_fail (f : α → β) (e : Error) : (fail e).map f = fail e := rfl

@[simp]
theorem map_pending (f : α → β) : (pending : Ending α).map f = pending := rfl

@[elab_as_elim, cases_eliminator]
def casesEnding {motive : Ending α → Sort u} (ok : ∀ a, motive (.ok a))
    (fail : ∀ e, motive (.fail e)) (pending : motive .pending) : ∀ e, motive e
  | done (.ok a) => ok a
  | done (.error e) => fail e
  | .pending => pending

theorem map_eq_ok_iff {f : α → β} {e : Ending α} {b : β} :
    e.map f = ok b ↔ ∃ a, e = ok a ∧ f a = b := by
  cases e with
  | ok a =>
    refine ⟨fun h ↦ ?_, fun ⟨_, h, hf⟩ ↦ ?_⟩
    · cases h
      exact ⟨a, rfl, rfl⟩
    · cases h
      exact congrArg ok hf
  | fail e => exact iff_of_false nofun nofun
  | pending => exact iff_of_false nofun nofun

theorem map_id (e : Ending α) : e.map id = e := by
  cases e <;> rfl

theorem map_map {γ : Type} (f : α → β) (g : β → γ) (e : Ending α) :
    (e.map f).map g = e.map (g ∘ f) := by
  cases e <;> rfl

end Ending

end BuildHook
