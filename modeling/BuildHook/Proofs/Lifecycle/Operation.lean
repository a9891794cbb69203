import BuildHook.Lifecycle.Basic
import BuildHook.Proofs.Hook.History

namespace BuildHook

namespace LifecycleCommand

variable {σ : Type} (c : LifecycleCommand σ)

def next (world : World σ) : LifecycleCommand σ :=
  match c.finalize with
  | .error _ => c.skip
  | .ok () => (c.run world).subject

def after (worlds : List (World σ)) : LifecycleCommand σ := worlds.foldl next c

theorem invoke_subject (receiver : Receiver) (world : World σ) :
    (c.invoke receiver world).subject = c.next world := by
  rw [invoke, next]
  cases c.finalize <;> rfl

theorem hook_after (h : Hook σ) (worlds : List (World σ)) :
    (hook h).after worlds = hook (h.after worlds) := by
  induction worlds generalizing h with
  | nil => rfl
  | cons world rest ih => exact ih (h.run world).subject

end LifecycleCommand

def Registration.after {σ : Type} (r : Registration σ) (worlds : List (World σ)) :
    Registration σ :=
  { r with command := r.command.after worlds }

namespace Phase

theorem commands_eq (phase : Phase) : phase.commands = [buildCommand] := by
  cases phase <;> rfl

def closing (phase : Phase) (listening : Bool) : Ending HookReport → Trace
  | .done (.ok report) =>
    (Reporter.of listening).emit (.build (.phaseCompleted phase.name [report.command]))
  | _ => []

theorem closing_fail (phase : Phase) (listening : Bool) (e : Error) :
    phase.closing listening (.fail e) = [] := rfl

theorem closing_pending (phase : Phase) (listening : Bool) :
    phase.closing listening .pending = [] := rfl

theorem asked_closing (phase : Phase) (listening : Bool) (ending : Ending HookReport) :
    (phase.closing listening ending).asked = [] := by
  cases ending with
  | ok report => exact Reporter.asked_emit _ _
  | fail e => rfl
  | pending => rfl

end Phase

/-- What can be asked of a driver. An operation that runs commands finds the world as it is by
then. -/
inductive Operation (σ : Type) where
  | listen
  | register (command : LifecycleCommand σ)
  | userOptions (name : String)
  | commandNames
  | runCommand (name : String) (world : World σ)
  | runPhase (phase : Phase) (world : World σ)

namespace Operation

variable {σ : Type}

def isRegistration : Operation σ → Bool
  | register _ => true
  | _ => false

def registers (name : String) : Operation σ → Bool
  | register c => c.name = name
  | _ => false

def worldFor? (name : String) : Operation σ → Option (World σ)
  | runCommand key world => if name = key then some world else none
  | runPhase phase world => if name ∈ phase.commands then some world else none
  | _ => none

theorem exists_of_registers {name : String} {op : Operation σ} (h : op.registers name = true) :
    ∃ c, op = .register c ∧ c.name = name := by
  cases op with
  | register c => exact ⟨c, rfl, of_decide_eq_true h⟩
  | _ => nomatch h

theorem eq_of_registers {name key : String} {op : Operation σ} (h : op.registers name = true)
    (hkey : op.registers key = true) : name = key := by
  obtain ⟨c, rfl, rfl⟩ := exists_of_registers h
  exact of_decide_eq_true hkey

theorem worldFor?_runPhase (name : String) (phase : Phase) (world : World σ) :
    (runPhase phase world).worldFor? name =
      (runCommand Phase.buildCommand world).worldFor? name := by
  simp only [worldFor?, Phase.commands_eq, List.mem_singleton]

end Operation

namespace Lifecycle

variable {σ : Type}

def perform (l : Lifecycle σ) : Operation σ → Lifecycle σ × Trace
  | .listen => (l.listen, [])
  | .register c => l.register c
  | .userOptions _ => (l, [])
  | .commandNames => (l, [])
  | .runCommand name world => ((l.runCommand name world).subject, (l.runCommand name world).trace)
  | .runPhase phase world => ((l.runPhase phase world).subject, (l.runPhase phase world).trace)

def after (l : Lifecycle σ) (ops : List (Operation σ)) : Lifecycle σ :=
  ops.foldl (fun l op ↦ (l.perform op).1) l

/-- A driver without any command; a new driver is one that was given the built-in command. -/
def blank : Lifecycle σ := ⟨.empty, false, 0⟩

section Invocations

variable {l : Lifecycle σ} {name : String} {r : Registration σ} (world : World σ)

def preamble (receiver : Receiver) : Trace :=
  [record .info "running lifecycle command" [("command", .shown receiver.name)],
    .call receiver .initOptions, .call receiver .finalizeOptions, .call receiver .run]

theorem runCommand_of_none (h : l.table.get? name = none) :
    l.runCommand name world = ⟨.fail (unknown name), l, world, []⟩ := by
  rw [runCommand, h]

theorem runCommand_of_some (h : l.table.get? name = some r) :
    l.runCommand name world =
      let e := r.command.invoke ⟨r.serial, name, r.command.origin⟩ world
      ⟨e.ending, { l with table := l.table.insert name (r.after [world]) }, e.world,
        record .info "running lifecycle command" [("command", .shown name)] :: e.trace⟩ := by
  rw [runCommand, h]
  dsimp only
  rw [LifecycleCommand.invoke_subject]
  rfl

theorem runCommand_listening (l : Lifecycle σ) (name : String) :
    (l.runCommand name world).subject.listening = l.listening := by
  unfold runCommand
  split <;> rfl

theorem runCommand_registered (l : Lifecycle σ) (name : String) :
    (l.runCommand name world).subject.registered = l.registered := by
  unfold runCommand
  split <;> rfl

theorem get?_runCommand (l : Lifecycle σ) (name key : String) :
    (l.runCommand name world).subject.table.get? key =
      if key = name then (l.table.get? name).map (·.after [world]) else l.table.get? key := by
  cases h : l.table.get? name with
  | none =>
    rw [runCommand_of_none world h]
    split
    · next heq => rw [heq, h]; rfl
    · rfl
  | some r =>
    rw [runCommand_of_some world h]
    exact NameMap.get?_insert _ _ _ _

/-- A phase is one invocation, and it is told when that has come to a report. -/
theorem runPhase_eq (l : Lifecycle σ) (phase : Phase) :
    l.runPhase phase world =
      let e := l.runCommand Phase.buildCommand world
      ⟨e.ending.map fun report ↦ ⟨phase, [report]⟩, e.subject, e.world,
        e.trace ++ phase.closing l.listening e.ending⟩ := by
  have hlisten := runCommand_listening world l Phase.buildCommand
  rw [runPhase, Phase.commands_eq, runCommands]
  generalize l.runCommand Phase.buildCommand world = e at hlisten
  obtain ⟨ending, subject, world, trace⟩ := e
  cases ending with
  | ok report =>
    simp only [runCommands, Ending.ok, Ending.map, Except.map, List.append_nil]
    rw [← hlisten]
    rfl
  | fail e => simp only [Ending.fail, Phase.closing, List.append_nil]; rfl
  | pending => simp only [Phase.closing, List.append_nil]; rfl

theorem runCommand_of_hook {serial : Nat} {hook : Hook σ}
    (h : l.table.get? name = some ⟨serial, .hook hook⟩) :
    l.runCommand name world =
      let e := hook.run world
      ⟨e.ending, { l with table := l.table.insert name ⟨serial, .hook e.subject⟩ }, e.world,
        preamble ⟨serial, name, .hook⟩ ++ e.trace⟩ := by
  rw [runCommand_of_some world h]
  rfl

theorem runPhase_of_hook {l : Lifecycle σ} {serial : Nat} {hook : Hook σ}
    (h : l.table.get? Phase.buildCommand = some ⟨serial, .hook hook⟩) (phase : Phase)
    (world : World σ) :
    (l.runPhase phase world).ending =
        (hook.run world).ending.map (fun report ↦ ⟨phase, [report]⟩) ∧
      (l.runPhase phase world).world = (hook.run world).world ∧
      (l.runPhase phase world).trace =
        preamble ⟨serial, Phase.buildCommand, .hook⟩ ++ (hook.run world).trace ++
          phase.closing l.listening (hook.run world).ending := by
  rw [runPhase_eq, runCommand_of_hook world h]
  exact ⟨rfl, rfl, rfl⟩

end Invocations

section Table

variable {l : Lifecycle σ} {name : String}

theorem get?_register (l : Lifecycle σ) (c : LifecycleCommand σ) (name : String) :
    (l.register c).1.table.get? name =
      if name = c.name then some ⟨l.registered, c⟩ else l.table.get? name :=
  NameMap.get?_insert _ _ _ _

theorem get?_perform {op : Operation σ} (h : op.registers name = false) :
    (l.perform op).1.table.get? name =
      (l.table.get? name).map (·.after (op.worldFor? name).toList) := by
  -- an operation invokes one name or leaves the entries as they are
  have hkept : l.table.get? name = (l.table.get? name).map (·.after []) := Option.map_id'.symm
  have hinvoked (key : String) (world : World σ) :
      (l.runCommand key world).subject.table.get? name = (l.table.get? name).map
        (·.after ((Operation.runCommand key world).worldFor? name).toList) := by
    rw [get?_runCommand, Operation.worldFor?]
    split
    · next heq => rw [heq]; rfl
    · exact hkept
  cases op with
  | listen => exact hkept
  | register c =>
    have hne : name ≠ c.name := fun heq ↦ of_decide_eq_false h heq.symm
    rw [perform, get?_register, if_neg hne]
    exact hkept
  | userOptions key => exact hkept
  | commandNames => exact hkept
  | runCommand key world => exact hinvoked key world
  | runPhase phase world =>
    rw [perform, runPhase_eq, Operation.worldFor?_runPhase]
    exact hinvoked Phase.buildCommand world

theorem get?_after {ops : List (Operation σ)} (h : ∀ op ∈ ops, op.registers name = false) :
    (l.after ops).table.get? name =
      (l.table.get? name).map (·.after (ops.filterMap (·.worldFor? name))) := by
  induction ops generalizing l with
  | nil => exact Option.map_id'.symm
  | cons op rest ih =>
    obtain ⟨hop, hrest⟩ := List.forall_mem_cons.1 h
    have hlater : (l.after (op :: rest)).table.get? name =
        ((l.table.get? name).map (·.after (op.worldFor? name).toList)).map
          (·.after (rest.filterMap (·.worldFor? name))) := by
      rw [← get?_perform hop]
      exact ih hrest
    rw [hlater, Option.map_map, List.filterMap_cons]
    cases op.worldFor? name <;> rfl

theorem mem_commandNames_iff : name ∈ l.commandNames ↔ (l.table.get? name).isSome :=
  NameMap.mem_names_iff

theorem mem_commandNames_perform (l : Lifecycle σ) (name : String) (op : Operation σ) :
    name ∈ (l.perform op).1.commandNames ↔ name ∈ l.commandNames ∨ op.registers name = true := by
  rw [mem_commandNames_iff, mem_commandNames_iff]
  cases h : op.registers name with
  | true =>
    obtain ⟨c, rfl, rfl⟩ := Operation.exists_of_registers h
    rw [perform, get?_register, if_pos rfl]
    exact iff_of_true rfl (.inr rfl)
  | false =>
    rw [get?_perform h, Option.isSome_map]
    exact (or_iff_left Bool.false_ne_true).symm

theorem registered_perform (l : Lifecycle σ) (op : Operation σ) :
    (l.perform op).1.registered = l.registered + if op.isRegistration then 1 else 0 := by
  cases op with
  | runCommand name world => exact runCommand_registered world l name
  | runPhase phase world =>
    rw [perform, runPhase_eq]
    exact runCommand_registered world l Phase.buildCommand
  | _ => rfl

end Table

end Lifecycle

end BuildHook
