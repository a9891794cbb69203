import BuildHook.Proofs.Hook.Observers
import BuildHook.Proofs.Lifecycle.Operation

namespace BuildHook

variable {σ τ : Type} {R : σ → τ → Prop}

theorem Episode.Agrees.ending_map {θ θ' α β : Type} {S : θ → θ' → Prop} {untimed : α → α}
    {untimed' : β → β} {e : Episode σ θ α} {e' : Episode τ θ' α} (h : e.Agrees R S untimed e')
    {f : α → β} (hf : untimed' ∘ f = f ∘ untimed) :
    (e.ending.map f).map untimed' = (e'.ending.map f).map untimed' := by
  rw [Ending.map_map, Ending.map_map, hf, ← Ending.map_map, ← Ending.map_map, h.ending]

def PhaseReport.untimed (r : PhaseReport) : PhaseReport :=
  { r with reports := r.reports.map HookReport.untimed }

namespace LifecycleCommand

inductive Matches (R : σ → τ → Prop) : LifecycleCommand σ → LifecycleCommand τ → Prop
  | builtin : Matches R builtin builtin
  | hook {h : Hook σ} {h' : Hook τ} : h.Matches R h' → Matches R (hook h) (hook h')
  | custom (c : CustomCommand) : Matches R (custom c) (custom c)

namespace Matches

variable {c : LifecycleCommand σ} {c' : LifecycleCommand τ} (h : c.Matches R c')

include h

theorem name : c.name = c'.name := by
  cases h with
  | builtin => rfl
  | hook h => exact h.name
  | custom c => rfl

theorem finalize : c.finalize = c'.finalize := by cases h <;> rfl

theorem skip : c.skip.Matches R c'.skip := by
  cases h with
  | builtin => exact .builtin
  | hook h => exact .hook h
  | custom c => exact .custom _

theorem run {world : World σ} {world' : World τ} (hworld : R world.tools world'.tools) :
    Episode.Agrees R (Matches R) HookReport.untimed (c.run world) (c'.run world') := by
  cases h with
  | builtin => exact ⟨rfl, .builtin, hworld, rfl⟩
  | hook h =>
    have hrun := h.run hworld
    exact ⟨hrun.ending, .hook hrun.subject, hrun.tools, hrun.asked⟩
  | custom c => exact ⟨rfl, .custom _, hworld, rfl⟩

theorem invoke (receiver receiver' : Receiver) {world : World σ} {world' : World τ}
    (hworld : R world.tools world'.tools) :
    Episode.Agrees R (Matches R) HookReport.untimed (c.invoke receiver world)
      (c'.invoke receiver' world') := by
  have hrun := h.run hworld
  rw [LifecycleCommand.invoke, LifecycleCommand.invoke, h.finalize]
  cases c'.finalize with
  | error e => exact ⟨rfl, h.skip, hworld, rfl⟩
  | ok => exact ⟨hrun.ending, hrun.subject, hrun.tools, hrun.asked⟩

end Matches

end LifecycleCommand

namespace Operation

inductive Matches (R : σ → τ → Prop) : Operation σ → Operation τ → Prop
  | register {c : LifecycleCommand σ} {c' : LifecycleCommand τ} :
      c.Matches R c' → Matches R (register c) (register c')
  | userOptions (name : String) : Matches R (userOptions name) (userOptions name)
  | commandNames : Matches R commandNames commandNames
  | runCommand (name : String) {world : World σ} {world' : World τ} :
      R world.tools world'.tools → Matches R (runCommand name world) (runCommand name world')
  | runPhase (phase : Phase) {world : World σ} {world' : World τ} :
      R world.tools world'.tools → Matches R (runPhase phase world) (runPhase phase world')

/-- The same operations, but for a sender that either side may be given at any time. -/
inductive AllMatch (R : σ → τ → Prop) : List (Operation σ) → List (Operation τ) → Prop
  | nil : AllMatch R [] []
  | cons {op : Operation σ} {op' : Operation τ} {ops : List (Operation σ)}
      {ops' : List (Operation τ)} :
      op.Matches R op' → AllMatch R ops ops' → AllMatch R (op :: ops) (op' :: ops')
  | listenLeft {ops : List (Operation σ)} {ops' : List (Operation τ)} :
      AllMatch R ops ops' → AllMatch R (listen :: ops) ops'
  | listenRight {ops : List (Operation σ)} {ops' : List (Operation τ)} :
      AllMatch R ops ops' → AllMatch R ops (listen :: ops')

end Operation

namespace Lifecycle

/-- Drivers whose tables hold matching commands under the same names. Whether anybody listens to
the drivers themselves does not matter. -/
def Matches (R : σ → τ → Prop) (l : Lifecycle σ) (l' : Lifecycle τ) : Prop :=
  ∀ name, Option.Rel (fun r r' ↦ r.command.Matches R r'.command) (l.table.get? name)
    (l'.table.get? name)

namespace Matches

variable {l : Lifecycle σ} {l' : Lifecycle τ} (h : l.Matches R l')

include h

theorem register {c : LifecycleCommand σ} {c' : LifecycleCommand τ} (hc : c.Matches R c') :
    (l.register c).1.Matches R (l'.register c').1 := by
  intro name
  rw [get?_register, get?_register, hc.name]
  split
  · exact .some hc
  · exact h name

theorem runCommand (name : String) {world : World σ} {world' : World τ}
    (hworld : R world.tools world'.tools) :
    Episode.Agrees R (Matches R) HookReport.untimed (l.runCommand name world)
      (l'.runCommand name world') := by
  have hname := h name
  generalize hr : l.table.get? name = found at hname
  generalize hr' : l'.table.get? name = found' at hname
  cases hname with
  | none =>
    rw [runCommand_of_none world hr, runCommand_of_none world' hr']
    exact ⟨rfl, h, hworld, rfl⟩
  | @some r r' hcommand =>
    have hinvoke := hcommand.invoke ⟨r.serial, name, r.command.origin⟩
      ⟨r'.serial, name, r'.command.origin⟩ hworld
    have hnext : (r.after [world]).command.Matches R (r'.after [world']).command := by
      have hsubject := hinvoke.subject
      rwa [LifecycleCommand.invoke_subject, LifecycleCommand.invoke_subject] at hsubject
    have hsubject : (l.runCommand name world).subject.Matches R
        (l'.runCommand name world').subject := by
      intro key
      rw [get?_runCommand, get?_runCommand, hr, hr']
      split
      · exact .some hnext
      · exact h key
    rw [runCommand_of_some world hr, runCommand_of_some world' hr'] at hsubject ⊢
    exact ⟨hinvoke.ending, hsubject, hinvoke.tools, hinvoke.asked⟩

theorem runPhase (phase : Phase) {world : World σ} {world' : World τ}
    (hworld : R world.tools world'.tools) :
    Episode.Agrees R (Matches R) PhaseReport.untimed (l.runPhase phase world)
      (l'.runPhase phase world') := by
  have hcommand := h.runCommand Phase.buildCommand hworld
  rw [runPhase_eq, runPhase_eq]
  exact {
    ending := hcommand.ending_map rfl
    subject := hcommand.subject
    tools := hcommand.tools
    asked := by
      rw [Trace.asked_append, Trace.asked_append, Phase.asked_closing, Phase.asked_closing,
        hcommand.asked] }

theorem listenLeft : l.listen.Matches R l' := h

theorem listenRight : l.Matches R l'.listen := h

theorem perform {op : Operation σ} {op' : Operation τ} (hop : op.Matches R op') :
    (l.perform op).1.Matches R (l'.perform op').1 := by
  cases hop with
  | register hc => exact h.register hc
  | userOptions name => exact h
  | commandNames => exact h
  | runCommand name hworld => exact (h.runCommand name hworld).subject
  | runPhase phase hworld => exact (h.runPhase phase hworld).subject

theorem after {ops : List (Operation σ)} {ops' : List (Operation τ)}
    (hops : Operation.AllMatch R ops ops') : (l.after ops).Matches R (l'.after ops') := by
  induction hops generalizing l l' with
  | nil => exact h
  | cons hop _ ih => exact ih (h.perform hop)
  | listenLeft _ ih => exact ih h.listenLeft
  | listenRight _ ih => exact ih h.listenRight

end Matches

theorem matches_create : (create : Lifecycle σ).Matches R create := by
  have hblank : (blank : Lifecycle σ).Matches R blank := fun _ ↦ .none
  exact hblank.register .builtin

/-- Nobody who listens can sway a build. The calls of a hook come to the same, leave it in the same
states and ask the executor for the same, whether or not it has a sender, whatever the executor
tells and whenever the receiver goes away. So do the commands and phases of a driver, which may have
a sender of its own or none. -/
theorem agrees_whoever_listens (R : σ → τ → Prop) :
    (∀ (plan : Plan) (state : HookState) (name : String) {executor : Executor σ}
        {executor' : Executor τ} (runId runId' : String) (listening listening' : Bool)
        {worlds : List (World σ)} {worlds' : List (World τ)},
      Executor.Matches R executor executor' →
      List.Forall₂ (fun world world' ↦ R world.tools world'.tools) worlds worlds' →
        List.Forall₂ (Episode.Agrees R (Hook.Matches R) HookReport.untimed)
          (Hook.history ⟨plan, executor, ⟨name, runId, listening⟩, state⟩ worlds)
          (Hook.history ⟨plan, executor', ⟨name, runId', listening'⟩, state⟩ worlds')) ∧
      ∀ {l : Lifecycle σ} {l' : Lifecycle τ} {ops : List (Operation σ)} {ops' : List (Operation τ)}
        {world : World σ} {world' : World τ},
        l.Matches R l' → Operation.AllMatch R ops ops' → R world.tools world'.tools →
          (∀ name, Episode.Agrees R (Matches R) HookReport.untimed
            ((l.after ops).runCommand name world) ((l'.after ops').runCommand name world')) ∧
          ∀ phase, Episode.Agrees R (Matches R) PhaseReport.untimed
            ((l.after ops).runPhase phase world) ((l'.after ops').runPhase phase world') := by
  refine ⟨?_, ?_⟩
  · intro plan state name executor executor' runId runId' listening listening' worlds worlds'
      hexecutor hworlds
    have hmatches : Hook.Matches R ⟨plan, executor, ⟨name, runId, listening⟩, state⟩
        ⟨plan, executor', ⟨name, runId', listening'⟩, state⟩ := ⟨rfl, rfl, rfl, hexecutor⟩
    exact hmatches.history hworlds
  · intro l l' ops ops' world world' hmatches hops hworld
    have hafter := hmatches.after hops
    exact ⟨fun name ↦ hafter.runCommand name hworld, fun phase ↦ hafter.runPhase phase hworld⟩

theorem agrees_if_receiver_leaves :
    let answers (script : List Reply) := script.map Reply.answer
    let R (script script' : List Reply) : Prop := answers script = answers script'
    let heard := Hook.ofTargets ["lib", "app"] .idle
    let unheard := { heard with context := { heard.context with listening := false } }
    let leaving := World.ofScript [⟨[.hangUp], .ended (.ofCode 0), .zero⟩,
      ⟨[], .ended .signaled, .zero⟩]
    let silent := World.ofScript [⟨[], .ended (.ofCode 0), .zero⟩, ⟨[], .ended .signaled, .zero⟩]
    let driver := (create.listen.register (.hook heard)).1
    let driver' := (create.register (.hook unheard)).1
    List.Forall₂ (Episode.Agrees R (Hook.Matches R) HookReport.untimed)
        (heard.history [leaving, leaving]) (unheard.history [silent, silent]) ∧
      driver.Matches R driver' ∧
      Episode.Agrees R (Matches R) PhaseReport.untimed
        ((driver.after [.runPhase .build leaving]).runPhase .install leaving)
        ((driver'.after [.runPhase .build silent]).runPhase .install silent) := by
  intro answers R heard unheard leaving silent driver driver'
  have hexecutor : Executor.Matches R heard.executor unheard.executor := by
    intro script script' c h
    cases script with
    | nil =>
      obtain rfl : script' = [] := List.map_eq_nil_iff.1 h.symm
      exact ⟨rfl, rfl⟩
    | cons reply rest =>
      obtain ⟨reply', rest', rfl, hreply, hrest⟩ := List.map_eq_cons_iff.1 h.symm
      exact ⟨hreply.symm, hrest.symm⟩
  have hworld : R leaving.tools silent.tools := rfl
  have hhook : heard.Matches R unheard := ⟨rfl, rfl, rfl, hexecutor⟩
  have hdriver : driver.Matches R driver' := matches_create.listenLeft.register (.hook hhook)
  obtain ⟨hhistory, hdriven⟩ := agrees_whoever_listens R
  obtain ⟨-, hphase⟩ := hdriven hdriver (.cons (.runPhase .build hworld) .nil) hworld
  exact ⟨hhistory _ _ _ _ _ _ _ hexecutor (.cons hworld (.cons hworld .nil)), hdriver,
    hphase .install⟩

end Lifecycle

end BuildHook
