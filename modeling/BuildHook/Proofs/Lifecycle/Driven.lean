import BuildHook.Proofs.Lifecycle.Operation

namespace BuildHook

namespace Hook

variable {σ : Type}

theorem Walks.length_records {hook : Hook σ} {index : Nat} {steps : List Step} {tools : σ}
    {w : Walk σ} (h : hook.Walks index steps tools w) {records : List StepRecord}
    (hending : w.ending = .ok records) : records.length = w.trace.asked.length := by
  induction h generalizing records with
  | done =>
    cases hending
    rfl
  | pass hp later ih =>
    obtain ⟨rest, hrest, rfl⟩ := Ending.map_eq_ok_iff.1 hending
    rw [Trace.asked_append, asked_passage, List.length_append, ← ih hrest, List.length_cons,
      List.length_singleton, Nat.add_comm]
  | fail => nomatch hending
  | hang => nomatch hending

theorem length_records_of_ok {hook : Hook σ} {world : World σ} {report : HookReport}
    (h : (hook.run world).ending = .ok report) :
    report.records.length = (hook.run world).trace.asked.length := by
  rcases hook.running_or_ready with ⟨k, hk⟩ | hready
  · rw [run_of_running hk] at h
    nomatch h
  · by_cases hplan : hook.plan.steps = []
    · nomatch (run_of_no_steps world hplan hready).1.symm.trans h
    · obtain ⟨w, hwalks, hrun⟩ := exists_run_eq world hplan hready
      rw [hrun] at h ⊢
      obtain ⟨records, hrecords, rfl⟩ := Ending.map_eq_ok_iff.1 h
      rw [asked_course]
      exact hwalks.length_records hrecords

end Hook

namespace Lifecycle

variable {σ : Type}

/-- What a driver did for a hook is what the hook did in a call of its own: the executor was asked
for the same, and the hook that the driver keeps under that name is the one that the call left. -/
structure Mirrors {α : Type} (name : String) (serial : Nat)
    (driven : Episode σ (Lifecycle σ) α) (call : Episode σ (Hook σ) HookReport) : Prop where
  world : driven.world = call.world
  asked : driven.trace.asked = call.trace.asked
  entry : driven.subject.table.get? name = some ⟨serial, .hook call.subject⟩

section Entry

variable {l : Lifecycle σ} {name : String} {serial : Nat} {hook : Hook σ}
  (h : l.table.get? name = some ⟨serial, .hook hook⟩) (world : World σ)

include h

theorem mirrors_runCommand : Mirrors name serial (l.runCommand name world) (hook.run world) where
  world := by rw [runCommand_of_hook world h]
  asked := by
    rw [runCommand_of_hook world h]
    exact Trace.asked_append _ _
  entry := by
    rw [get?_runCommand, if_pos rfl, h]
    rfl

theorem sent_runCommand :
    (l.runCommand name world).trace.sent = (hook.run world).trace.sent := by
  rw [runCommand_of_hook world h]
  exact Trace.sent_append _ _

end Entry

section Build

variable {l : Lifecycle σ} {serial : Nat} {hook : Hook σ}
  (h : l.table.get? Phase.buildCommand = some ⟨serial, .hook hook⟩) (phase : Phase)
  (world : World σ)

include h

theorem mirrors_runPhase :
    Mirrors Phase.buildCommand serial (l.runPhase phase world) (hook.run world) := by
  have hcall := mirrors_runCommand h world
  rw [runPhase_eq]
  exact {
    world := hcall.world
    asked := by
      rw [Trace.asked_append, Phase.asked_closing, List.append_nil]
      exact hcall.asked
    entry := hcall.entry }

theorem sent_runPhase :
    (l.runPhase phase world).trace.sent = (hook.run world).trace.sent ++
      (phase.closing l.listening (hook.run world).ending).sent := by
  obtain ⟨-, -, htrace⟩ := runPhase_of_hook h phase world
  rw [htrace, Trace.sent_append, Trace.sent_append]
  rfl

end Build

/-- Through a driver a hook does what it does on its own, call after call: it comes to the same,
asks the executor for the same, tells the same and is left the same. A phase adds to that only what
it tells at its end, and only if the hook has come to a report. -/
theorem driven_eq_direct (l : Lifecycle σ) (hook : Hook σ) (ops : List (Operation σ))
    (hops : ∀ op ∈ ops, op.registers hook.context.name = false) (world : World σ) :
    let name := hook.context.name
    let driver := (l.register (.hook hook)).1.after ops
    let direct := hook.after (ops.filterMap (·.worldFor? name))
    let call := direct.run world
    let driven := driver.runCommand name world
    (driven.ending = call.ending ∧ driven.trace.sent = call.trace.sent ∧
      Mirrors name l.registered driven call) ∧
    (name = "build_ext" → ∀ phase : Phase,
      let phased := driver.runPhase phase world
      phased.ending = call.ending.map (fun report ↦ ⟨phase, [report]⟩) ∧
        Mirrors name l.registered phased call ∧
        match call.ending with
        | .done (.ok report) =>
          (PhaseReport.mk phase [report]).stepsRun = phased.trace.asked.length ∧
            phased.trace.sent = call.trace.sent ++ if driver.listening then
              [.of (.build (.phaseCompleted phase.name [report.command])) none] else []
        | _ => phased.trace.sent = call.trace.sent) := by
  intro name driver direct call driven
  have hput : (l.register (.hook hook)).1.table.get? name = some ⟨l.registered, .hook hook⟩ := by
    rw [get?_register]
    exact if_pos rfl
  have hentry : driver.table.get? name = some ⟨l.registered, .hook direct⟩ := by
    rw [get?_after hops, hput, Option.map_some, Registration.after, LifecycleCommand.hook_after]
  have hending := congrArg Episode.ending (runCommand_of_hook world hentry)
  refine ⟨⟨hending, sent_runCommand hentry world, mirrors_runCommand hentry world⟩, ?_⟩
  intro hname phase
  -- the command that a phase looks up is this hook
  have hbuild : driver.table.get? Phase.buildCommand = some ⟨l.registered, .hook direct⟩ := by
    rw [← hentry, hname]
    rfl
  have hmirrors := mirrors_runPhase hbuild phase world
  have hsent : (driver.runPhase phase world).trace.sent =
      call.trace.sent ++ (phase.closing driver.listening call.ending).sent :=
    sent_runPhase hbuild phase world
  refine ⟨(runPhase_of_hook hbuild phase world).1, hname ▸ hmirrors, ?_⟩
  cases hcall : call.ending with
  | ok report =>
    rw [hcall] at hsent
    have hlength := (Hook.length_records_of_ok hcall).trans (congrArg _ hmirrors.asked.symm)
    refine ⟨?_, hsent.trans (congrArg _ (Reporter.sent_emit _ _))⟩
    rw [PhaseReport.stepsRun, List.flatMap_singleton]
    exact hlength
  | fail e =>
    rw [hcall, phase.closing_fail] at hsent
    exact hsent.trans (List.append_nil _)
  | pending =>
    rw [hcall, phase.closing_pending] at hsent
    exact hsent.trans (List.append_nil _)

theorem driven_eq_direct_after_failure :
    let hook := Hook.ofTargets ["lib", "app"] .idle
    let failing := World.ofScript [⟨[], .ended .signaled, .zero⟩]
    let passing := World.ofScript []
    let hanging := World.ofScript [⟨[], .ended (.ofCode 0), .zero⟩, ⟨[], .never, .zero⟩]
    let ops := [.runPhase .build failing, .listen]
    let driver := (create.register (.hook hook)).1.after ops
    let direct := hook.after [failing]
    let report : HookReport := ⟨"build_ext",
      [⟨⟨"make", "lib"⟩, .ofCode 0, .zero⟩, ⟨⟨"make", "app"⟩, .ofCode 0, .zero⟩], .zero⟩
    (∀ op ∈ ops, op.registers "build_ext" = false) ∧
      (driver.runPhase .install passing).ending = .ok ⟨.install, [report]⟩ ∧
      (driver.runPhase .install passing).trace.sent = (direct.run passing).trace.sent ++
        [.of (.build (.phaseCompleted "install" ["build_ext"])) none] ∧
      (driver.runPhase .install hanging).ending = .pending ∧
      (driver.runPhase .install hanging).trace.sent = (direct.run hanging).trace.sent ∧
      (driver.runPhase .install hanging).subject.table.get? "build_ext" =
        some ⟨1, .hook (direct.run hanging).subject⟩ ∧
      (direct.run hanging).subject.state = .running 1 := by
  intro hook failing passing hanging ops driver direct report
  have hops : ∀ op ∈ ops, op.registers "build_ext" = false :=
    List.forall_mem_cons.2 ⟨rfl, List.forall_mem_cons.2 ⟨rfl, List.forall_mem_nil _⟩⟩
  have hdirect : hook.after (ops.filterMap (·.worldFor? hook.context.name)) = direct := by
    simp [ops, direct, hook, Hook.ofTargets, Hook.commandName, Operation.worldFor?, Phase.commands]
  have hok : (direct.run passing).ending = .ok report := rfl
  have hpending : (direct.run hanging).ending = .pending := rfl
  have hdriver : (create.register (.hook hook)).1.after ops = driver := rfl
  have hpassing := driven_eq_direct create hook ops hops passing
  have hhanging := driven_eq_direct create hook ops hops hanging
  dsimp only at hpassing hhanging
  rw [hdriver, hdirect, hok] at hpassing
  rw [hdriver, hdirect, hpending] at hhanging
  obtain ⟨hending, -, -, hsent⟩ := hpassing.2 rfl .install
  obtain ⟨hending', hmirrors, hsent'⟩ := hhanging.2 rfl .install
  exact ⟨hops, hending, hsent, hending', hsent', hmirrors.entry, rfl⟩

end Lifecycle

end BuildHook
