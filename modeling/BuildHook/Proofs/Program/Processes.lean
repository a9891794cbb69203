import BuildHook.Proofs.Program.Neutral
import BuildHook.Proofs.Program.Planned

namespace BuildHook

/-- The executor on a host that the programs change as they go. -/
def Host.shifting {τ : Type} (hosts : τ → Host) (programs : Programs τ) : Executor (Processes τ) :=
  fun processes c ↦ (hosts processes.state).executor programs processes c

theorem Host.executor_surroundings {τ : Type} (h : Host) (programs : Programs τ)
    (overrides : Overrides) (logFilter : Option OsText) (colored : Bool)
    (clock messageId : Nat → String) :
    (h.surroundings programs overrides logFilter colored clock messageId).executor =
      shifting (fun _ ↦ h) programs := rfl

structure Launch (τ : Type) where
  step : Step
  state : τ
  invocation : Invocation

namespace Launch

variable {τ : Type} (hosts : τ → Host) (programs : Programs τ)

structure Fits (dir : Option OsText) (l : Launch τ) : Prop where
  args : l.invocation.args = [l.step.target]
  dir : (hosts l.state).enter dir = .ok l.invocation.dir
  program : (hosts l.state).locate l.invocation.dir l.step.tool = .ok l.invocation.program

def Passes (l : Launch τ) : Prop :=
  (programs l.state l.invocation).1.status.exitCode = some 0

end Launch

theorem exists_ok_of_bind {ε α β : Type} {x : Except ε α} {f : α → Except ε β} {b : β}
    (h : x >>= f = .ok b) : ∃ a, x = .ok a ∧ f a = .ok b := by
  cases x with
  | error e => nomatch h
  | ok a => exact ⟨a, rfl, h⟩

theorem Host.of_prepare {h : Host} {c : Command} {i : Invocation} (hi : h.prepare c = .ok i) :
    i.args = c.args ∧ h.enter c.dir = .ok i.dir ∧ h.locate i.dir c.program = .ok i.program := by
  simp only [prepare] at hi
  split at hi
  · nomatch hi
  · obtain ⟨dir, hdir, hi⟩ := exists_ok_of_bind hi
    obtain ⟨program, hprogram, hi⟩ := exists_ok_of_bind hi
    obtain rfl : ⟨program, dir, c.args⟩ = i := Except.ok.inj hi
    exact ⟨rfl, hdir, hprogram⟩

def Ending.Settles {α : Type} (ending : Ending α) : Bool → Prop
  | true => ∃ a, ending = .ok a
  | false => ∃ e, ending = .fail e ∧ e.isStepFailure = true

theorem Ending.Settles.map {α β : Type} {ending : Ending α} {completed : Bool}
    (h : ending.Settles completed) (f : α → β) : (ending.map f).Settles completed := by
  cases completed with
  | true =>
    obtain ⟨a, rfl⟩ := h
    exact ⟨f a, rfl⟩
  | false =>
    obtain ⟨e, rfl, he⟩ := h
    exact ⟨e, rfl, he⟩

theorem Surroundings.statusOfCall_of_settles {ending : Ending HookReport} {completed : Bool}
    (h : ending.Settles completed) :
    statusOfCall ending = some (if completed then 0 else 255) := by
  cases completed with
  | true =>
    obtain ⟨report, rfl⟩ := h
    rfl
  | false =>
    obtain ⟨e, rfl, he⟩ := h
    simp only [Ending.fail, statusOfCall, he, ↓reduceIte, Bool.false_eq_true]

variable {τ : Type}

section Course

variable (hosts : τ → Host) (programs : Programs τ) (dir : Option OsText)

/-- How steps go in a directory: the processes that are started, whether all is well at the end, and
how the programs stand then. A process that fails is the last one, and so is the one before a step
that cannot be started. -/
inductive Course : τ → List Step → List (Launch τ) → Bool → τ → Prop
  | done (state : τ) : Course state [] [] true state
  | pass {state after : τ} {step : Step} {rest : List Step} {launches : List (Launch τ)}
      {completed : Bool} {i : Invocation} :
      (hosts state).prepare ⟨step.tool, [step.target], dir⟩ = .ok i →
      Launch.Passes programs ⟨step, state, i⟩ →
      Course (programs state i).2 rest launches completed after →
      Course state (step :: rest) (⟨step, state, i⟩ :: launches) completed after
  | fail {state : τ} {step : Step} (rest : List Step) {i : Invocation} :
      (hosts state).prepare ⟨step.tool, [step.target], dir⟩ = .ok i →
      ¬ Launch.Passes programs ⟨step, state, i⟩ →
      Course state (step :: rest) [⟨step, state, i⟩] false (programs state i).2
  | refuse {state : τ} {step : Step} (rest : List Step) {fault : Fault} :
      (hosts state).prepare ⟨step.tool, [step.target], dir⟩ = .error fault →
      Course state (step :: rest) [] false state

end Course

namespace Course

variable {hosts : τ → Host} {programs : Programs τ} {dir : Option OsText} {state after : τ}
  {steps : List Step} {launches : List (Launch τ)} {completed : Bool}

theorem fits (h : Course hosts programs dir state steps launches completed after) :
    ∀ l ∈ launches, l.Fits hosts dir := by
  induction h with
  | done => exact List.forall_mem_nil _
  | pass hi hp later ih =>
    obtain ⟨hargs, hdir, hprogram⟩ := Host.of_prepare hi
    exact List.forall_mem_cons.2 ⟨⟨hargs, hdir, hprogram⟩, ih⟩
  | fail rest hi hp =>
    obtain ⟨hargs, hdir, hprogram⟩ := Host.of_prepare hi
    exact List.forall_mem_singleton.2 ⟨hargs, hdir, hprogram⟩
  | refuse => exact List.forall_mem_nil _

theorem isPrefix (h : Course hosts programs dir state steps launches completed after) :
    launches.map Launch.step <+: steps := by
  induction h with
  | done => exact List.prefix_refl _
  | pass hi hp later ih => exact List.cons_prefix_cons.2 ⟨rfl, ih⟩
  | fail rest hi hp => exact List.cons_prefix_cons.2 ⟨rfl, List.nil_prefix⟩
  | refuse => exact List.nil_prefix

theorem of_completed (h : Course hosts programs dir state steps launches true after) :
    launches.map Launch.step = steps ∧ ∀ l ∈ launches, l.Passes programs := by
  generalize hc : true = completed at h
  induction h with
  | done => exact ⟨rfl, List.forall_mem_nil _⟩
  | pass hi hp later ih =>
    obtain ⟨hsteps, hpasses⟩ := ih hc
    exact ⟨congrArg _ hsteps, List.forall_mem_cons.2 ⟨hp, hpasses⟩⟩
  | fail | refuse => nomatch hc

theorem of_not_completed (h : Course hosts programs dir state steps launches false after) :
    (∃ passed l, launches = passed ++ [l] ∧ (∀ b ∈ passed, b.Passes programs) ∧
      ¬ l.Passes programs) ∨
    ∃ step left fault, steps = launches.map Launch.step ++ step :: left ∧
      (∀ l ∈ launches, l.Passes programs) ∧
      (hosts after).prepare ⟨step.tool, [step.target], dir⟩ = .error fault := by
  generalize hc : false = completed at h
  induction h with
  | done => nomatch hc
  | @pass state after step rest launches completed i hi hp later ih =>
    rcases ih hc with ⟨passed, l, rfl, hpassed, hl⟩ | ⟨next, left, fault, rfl, hpasses, hfault⟩
    · exact .inl ⟨⟨step, state, i⟩ :: passed, l, rfl, List.forall_mem_cons.2 ⟨hp, hpassed⟩, hl⟩
    · exact .inr ⟨next, left, fault, rfl, List.forall_mem_cons.2 ⟨hp, hpasses⟩, hfault⟩
  | fail rest hi hp => exact .inl ⟨[], _, rfl, List.forall_mem_nil _, hp⟩
  | refuse rest hi => exact .inr ⟨_, rest, _, rfl, List.forall_mem_nil _, hi⟩

end Course

namespace Hook

variable {hosts : τ → Host} {programs : Programs τ} {hook : Hook (Processes τ)}
  (hexec : hook.executor = Host.shifting hosts programs)

include hexec

theorem attempt_cases (step : Step) (processes : Processes τ) :
    (∃ fault, (hosts processes.state).prepare (hook.plan.command step) = .error fault ∧
      (hook.attempt step processes).passes = false ∧ hook.next step processes = processes) ∨
    ∃ i, (hosts processes.state).prepare (hook.plan.command step) = .ok i ∧
      ((hook.attempt step processes).passes = true ↔
        Launch.Passes programs ⟨step, processes.state, i⟩) ∧
      (hook.next step processes).state = (programs processes.state i).2 ∧
      (hook.next step processes).invoked = processes.invoked ++ [i] := by
  cases hi : (hosts processes.state).prepare (hook.plan.command step) with
  | error fault =>
    refine .inl ⟨fault, rfl, ?_⟩
    rw [attempt, next, hexec, Host.shifting, Host.executor, hi]
    exact ⟨rfl, rfl⟩
  | ok i =>
    refine .inr ⟨i, rfl, ?_⟩
    rw [Attempt.passes_iff, attempt, next, hexec, Host.shifting, Host.executor, hi]
    refine ⟨⟨fun hanswer ↦ ?_, fun hpasses ↦ ?_⟩, rfl, rfl⟩
    · exact congrArg ExitStatus.exitCode (Answer.ended.inj hanswer)
    · exact congrArg (Answer.ended ⟨·⟩) hpasses

theorem attempt_ne_never (step : Step) (processes : Processes τ) :
    (hook.attempt step processes).reply.answer ≠ .never := by
  rw [attempt, hexec]
  exact Host.answer_ne_never _ _ _ _

theorem Walks.course {index : Nat} {steps : List Step} {processes : Processes τ}
    {w : Walk (Processes τ)} (h : hook.Walks index steps processes w) :
    ∃ launches completed,
      Course hosts programs hook.plan.workingDir processes.state steps launches completed
        w.tools.state ∧
      w.tools.invoked = processes.invoked ++ launches.map Launch.invocation ∧
      w.ending.Settles completed := by
  induction h with
  | done index processes => exact ⟨[], true, .done _, (List.append_nil _).symm, _, rfl⟩
  | @pass index step rest processes w hp later ih =>
    obtain ⟨launches, completed, hcourse, hinvoked, hending⟩ := ih
    rcases attempt_cases hexec step processes with
      ⟨fault, -, hfails, -⟩ | ⟨i, hi, hpasses, hstate, hnext⟩
    · nomatch hp.symm.trans hfails
    · rw [hstate] at hcourse
      refine ⟨⟨step, processes.state, i⟩ :: launches, completed, .pass hi (hpasses.1 hp) hcourse,
        ?_, hending.map _⟩
      rw [hinvoked, hnext, List.append_assoc]
      rfl
  | @fail index step rest processes e hf =>
    obtain ⟨command, detail, rfl⟩ := Attempt.failure_eq_stepFailed hf
    have hfails := Attempt.not_passes_of_failure hf
    rcases attempt_cases hexec step processes with
      ⟨fault, hi, -, hnext⟩ | ⟨i, hi, hpasses, hstate, hnext⟩
    · rw [hnext]
      exact ⟨[], false, .refuse rest hi, (List.append_nil _).symm, _, rfl, rfl⟩
    · have hnot : ¬ Launch.Passes programs ⟨step, processes.state, i⟩ := by
        rw [← hpasses, hfails]
        exact Bool.false_ne_true
      refine ⟨[⟨step, processes.state, i⟩], false, ?_, hnext, _, rfl, rfl⟩
      rw [hstate]
      exact .fail rest hi hnot
  -- on a host every attempt comes to an end
  | hang index rest hn => exact absurd hn (attempt_ne_never hexec _ _)

end Hook

namespace Plan

theorem toJson?_eq_some {p : Plan} {v : Json} (h : p.toJson? = some v) :
    ∃ path : Option String, p.workingDir = path.map OsText.ofString ∧
      v = .obj [("steps", .list Step.toJson p.steps), ("working_dir", .option .str path)] := by
  obtain ⟨steps, dir⟩ := p
  cases dir with
  | none => exact ⟨none, rfl, (Option.some.inj h).symm⟩
  | some dir =>
    cases htext : dir.toString? with
    | none =>
      simp [toJson?, Json.option?, OsText.toJson?, htext] at h
    | some text =>
      simp only [toJson?, Json.option?, OsText.toJson?, htext] at h
      refine ⟨some text, ?_, (Option.some.inj h).symm⟩
      rw [Option.map_some, OsText.ofString_of_toString? htext]

end Plan

namespace Surroundings

variable {hosts : τ → Host} {programs : Programs τ} {s : Surroundings (Processes τ)}

theorem exists_course (hs : s.executor = Host.shifting hosts programs) {p : Plan}
    (hplan : p.steps ≠ []) (world : World (Processes τ)) :
    ∃ launches completed after,
      Course hosts programs p.workingDir world.tools.state p.steps launches completed after ∧
      ((s.hook p world).run world.draw.2).world.tools.invoked =
        world.tools.invoked ++ launches.map Launch.invocation ∧
      statusOfCall ((s.hook p world).run world.draw.2).ending =
        some (if completed then 0 else 255) := by
  obtain ⟨w, hwalks, hrun⟩ := Hook.exists_run_eq world.draw.2 hplan (s.hook_ready p world)
  have hexec : ((s.hook p world).armed world.draw.2).executor = Host.shifting hosts programs := by
    rw [Hook.armed_executor]
    exact hs
  obtain ⟨launches, completed, hcourse, hinvoked, hending⟩ := hwalks.course hexec
  rw [Hook.armed_plan] at hcourse
  rw [hrun]
  exact ⟨launches, completed, _, hcourse, hinvoked, statusOfCall_of_settles (hending.map _)⟩

theorem stdout_of_plan {σ : Type} {s : Surroundings σ} {args : List OsText} {r : Request}
    {c : Config} (hargs : CommandLine.parse args = .ok r) (hverb : r.verb = .plan)
    (hjson : r.options.json = true) (hc : s.Configured r.options c) {world : World σ}
    (hstatus : (s.run args world).exitStatus = some 0) :
    ∃ path : Option String, c.hook.workingDir = path.map OsText.ofString ∧
      (s.run args world).stdout = Json.pretty 0 (.obj [("kind", .str "plan"), ("result",
        .obj [("steps", .list Step.toJson c.hook.plan.steps),
          ("working_dir", .option .str path)])]) ++ "\n" := by
  have hwork : s.work r c world = _ := work_of_plan world hverb (usable_of_configured hc)
  rw [(run_of_configured world hargs hc).1, hwork, hjson] at hstatus
  cases hv : c.hook.plan.toJson? with
  | none =>
    have hunprintable : ¬ OsText.Printable true (Outcome.plan c.hook.plan).path := by
      intro hprintable
      have hsome := (Outcome.isSome_toJson?_iff (.plan c.hook.plan)).2 (hprintable rfl)
      rw [Outcome.toJson?, Outcome.resultJson?, hv] at hsome
      exact Bool.false_ne_true hsome
    rw [statusOf_ok_eq_one (.inl hunprintable)] at hstatus
    exact absurd hstatus (by decide)
  | some v =>
    obtain ⟨path, hdir, rfl⟩ := Plan.toJson?_eq_some hv
    refine ⟨path, hdir, ?_⟩
    rw [stdout_of_configured world hargs hc, hwork, hjson]
    simp only [conclude, Ending.ok, Outcome.render, Outcome.toJson?, Outcome.resultJson?, hv]
    rfl

theorem not_configured_of_plan {σ : Type} {s : Surroundings σ} {r : Request}
    (hverb : r.verb = .plan) {world : World σ} {e : Error}
    (h : (s.perform r world).conclusion = .abort (.work e)) (c : Config) :
    ¬ s.Configured r.options c := by
  intro hc
  -- with settings there is a plan, and nothing is missing that it would complain of
  cases endedBy_of_perform h with
  | settings hsettings => cases hsettings.symm.trans (settings_of_configured hc)
  | step hd hphase hfail =>
    rw [hverb] at hphase
    cases hphase
  | missing hd hcheck hwhich => cases hverb.symm.trans hcheck

/-- The plan that is printed as JSON, and what is started by any phase under the same settings. Only
a phase starts anything, and if the settings make the plan fail, no phase does. -/
theorem plan_shows_processes (hs : s.executor = Host.shifting hosts programs)
    {args : List OsText} {r : Request} (hargs : CommandLine.parse args = .ok r)
    (world : World (Processes τ)) :
    (r.verb.phase = none → (s.run args world).world = world) ∧
      (r.verb = .plan → r.options.json = true → (s.run args world).exitStatus = some 0 →
        ∃ (steps : List Step) (path : Option String),
          (s.run args world).stdout = Json.pretty 0 (.obj [("kind", .str "plan"), ("result",
            .obj [("steps", .list Step.toJson steps), ("working_dir", .option .str path)])]) ++
            "\n" ∧
          ∀ world : World (Processes τ), ∃ launches completed after,
            let dir := path.map OsText.ofString
            Course hosts programs dir world.tools.state steps launches completed after ∧
            launches.map Launch.step <+: steps ∧
            (∀ l ∈ launches, l.Fits hosts dir) ∧
            (if completed then
              launches.map Launch.step = steps ∧ ∀ l ∈ launches, l.Passes programs
            else
              (∃ passed l, launches = passed ++ [l] ∧ (∀ b ∈ passed, b.Passes programs) ∧
                ¬ l.Passes programs) ∨
              ∃ step left fault, steps = launches.map Launch.step ++ step :: left ∧
                (∀ l ∈ launches, l.Passes programs) ∧
                (hosts after).prepare ⟨step.tool, [step.target], dir⟩ = .error fault) ∧
            ∀ args' r', CommandLine.parse args' = .ok r' →
              r'.options.config = r.options.config → r'.verb.phase.isSome →
                (s.run args' world).exitStatus = some (if completed then 0 else 255) ∧
                (s.run args' world).world.tools.invoked =
                  world.tools.invoked ++ launches.map Launch.invocation) ∧
      (r.verb = .plan → ∀ e, (s.perform r world).conclusion = .abort (.work e) →
        ∀ args' r' world', CommandLine.parse args' = .ok r' →
          r'.options.config = r.options.config → (s.run args' world').world = world') := by
  refine ⟨?_, ?_, ?_⟩
  · intro hphase
    by_cases hconfigured : ∃ c, s.Configured r.options c
    · obtain ⟨c, hc⟩ := hconfigured
      exact (run_of_inquiry hargs hphase hc world).2
    · exact (run_of_not_configured world hargs (not_exists.1 hconfigured)).2
  · intro hverb hjson hstatus
    have hconfigured : ∃ c, s.Configured r.options c := by
      by_contra hnone
      rw [(run_of_not_configured world hargs (not_exists.1 hnone)).1] at hstatus
      exact absurd hstatus (by decide)
    obtain ⟨c, hc⟩ := hconfigured
    obtain ⟨path, hdir, hstdout⟩ := stdout_of_plan hargs hverb hjson hc hstatus
    refine ⟨c.hook.plan.steps, path, hstdout, fun world ↦ ?_⟩
    obtain ⟨launches, completed, after, hcourse, hinvoked, hexit⟩ :=
      exists_course hs (usable_of_configured hc).plan_steps_ne_nil world
    have hworkingDir : c.hook.plan.workingDir = path.map OsText.ofString := hdir
    rw [hworkingDir] at hcourse
    refine ⟨launches, completed, after, hcourse, hcourse.isPrefix, hcourse.fits, ?_, ?_⟩
    · cases completed with
      | true => exact hcourse.of_completed
      | false => exact hcourse.of_not_completed
    · intro args' r' hargs' hpath hphase
      obtain ⟨hstatus', hworld'⟩ := run_of_phase world hargs' ((configured_iff hpath).2 hc) hphase
      rw [hstatus', hworld']
      exact ⟨hexit, hinvoked⟩
  · intro hverb e he args' r' world' hargs' hpath
    have hnone (c : Config) : ¬ s.Configured r'.options c := by
      rw [configured_iff hpath]
      exact not_configured_of_plan hverb he c
    exact (run_of_not_configured world' hargs' hnone).2

theorem plan_shows_processes_of_failing_target :
    let s := failingOn "compiler"
    let world : World (Processes Unit) := ⟨⟨(), [], ""⟩, fun _ ↦ ""⟩
    (∃ h programs, s.executor = Host.shifting (fun _ ↦ h) programs) ∧
      CommandLine.parse [.ofString "plan", .ofString "--json"] =
        .ok ⟨.plan, ⟨true, false, none⟩⟩ ∧
      ∃ (steps : List Step) (path : Option String) (l : Launch Unit),
        (s.run [.ofString "plan", .ofString "--json"] world).stdout =
          Json.pretty 0 (.obj [("kind", .str "plan"), ("result",
            .obj [("steps", .list Step.toJson steps), ("working_dir", .option .str path)])]) ++
            "\n" ∧
        [l.step] <+: steps ∧
        (s.run [.ofString "build-ext"] world).world.tools.invoked = [l.invocation] ∧
        (s.run [.ofString "install"] world).world.tools.invoked = [l.invocation] := by
  intro s world
  have hs : ∃ h programs, s.executor = Host.shifting (fun _ ↦ h) programs :=
    ⟨_, _, Host.executor_surroundings _ _ _ _ _ _ _⟩
  have hargs : CommandLine.parse [.ofString "plan", .ofString "--json"] =
      .ok ⟨.plan, ⟨true, false, none⟩⟩ := rfl
  have hbuild : CommandLine.parse [.ofString "build-ext"] =
      .ok ⟨.buildExt, ⟨false, false, none⟩⟩ := rfl
  have hinstall : CommandLine.parse [.ofString "install"] =
      .ok ⟨.install, ⟨false, false, none⟩⟩ := rfl
  have hstatus : (s.run [.ofString "plan", .ofString "--json"] world).exitStatus = some 0 := by
    decide +kernel
  obtain ⟨h, programs, hexec⟩ := hs
  obtain ⟨steps, path, hstdout, hphases⟩ :=
    (plan_shows_processes hexec hargs world).2.1 rfl rfl hstatus
  obtain ⟨launches, completed, after, -, hprefix, -, -, hall⟩ := hphases world
  obtain ⟨-, hinvoked⟩ := hall _ _ hbuild rfl rfl
  obtain ⟨-, hinvoked'⟩ := hall _ _ hinstall rfl rfl
  have hone : (s.run [.ofString "build-ext"] world).world.tools.invoked.length = 1 := by
    decide +kernel
  rw [hinvoked, List.nil_append, List.length_map, List.length_eq_one_iff] at hone
  obtain ⟨l, rfl⟩ := hone
  exact ⟨⟨h, programs, hexec⟩, hargs, steps, path, l, hstdout, hprefix, hinvoked, hinvoked'⟩

/-- The last step fails: every step of the plan was started, and the phase fails all the same. -/
theorem fails_after_whole_plan :
    let s := failingOn "compiler-api"
    let world : World (Processes Unit) := ⟨⟨(), [], ""⟩, fun _ ↦ ""⟩
    let steps : List Step := [⟨"make", "compiler"⟩, ⟨"make", "compiler-api"⟩]
    (s.run [.ofString "plan", .ofString "--json"] world).stdout =
        Json.pretty 0 (.obj [("kind", .str "plan"), ("result",
          .obj [("steps", .list Step.toJson steps), ("working_dir", .null)])]) ++ "\n" ∧
      (s.run [.ofString "build-ext"] world).world.tools.invoked.map Invocation.args =
        steps.map (fun step ↦ [step.target]) ∧
      (s.run [.ofString "build-ext"] world).exitStatus = some 255 := by
  intro s world steps
  have hargs : CommandLine.parse [.ofString "build-ext"] =
      .ok ⟨.buildExt, ⟨false, false, none⟩⟩ := rfl
  refine ⟨by decide +kernel, by decide +kernel, ?_⟩
  rw [(run_of_phase world hargs (configured_failingOn "compiler-api" rfl) rfl).1]
  decide +kernel

end Surroundings

end BuildHook
