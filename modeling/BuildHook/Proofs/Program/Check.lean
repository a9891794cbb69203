import BuildHook.Proofs.Host.Lookup
import BuildHook.Proofs.Program.Processes

namespace BuildHook

variable {τ : Type}

namespace Host

variable {h : Host}

/-- What a process can be started for: there is no NUL in its arguments, its folder is there, and
the program is found from that folder. -/
theorem prepare_eq_ok_iff {c : Command} {i : Invocation} :
    h.prepare c = .ok i ↔
      ((OsText.ofString c.program).hasNul = false ∧
        (∀ a ∈ c.args, (OsText.ofString a).hasNul = false) ∧
        ∀ path ∈ c.dir, path.hasNul = false) ∧
      h.enter c.dir = .ok i.dir ∧ h.locate i.dir c.program = .ok i.program ∧ i.args = c.args := by
  have hnul : ((OsText.ofString c.program).hasNul ||
        c.args.any (fun a ↦ (OsText.ofString a).hasNul) ||
        (c.dir.map OsText.hasNul).getD false) = false ↔
      (OsText.ofString c.program).hasNul = false ∧
        (∀ a ∈ c.args, (OsText.ofString a).hasNul = false) ∧
        ∀ path ∈ c.dir, path.hasNul = false := by
    cases c.dir <;> simp [and_assoc]
  rw [← hnul]
  constructor
  · intro hi
    obtain ⟨hargs, hdir, hprogram⟩ := of_prepare hi
    refine ⟨?_, hdir, hprogram, hargs⟩
    simp only [prepare] at hi
    split at hi
    · cases hi
    · next hno => exact Bool.eq_false_iff.2 hno
  · rintro ⟨hno, hdir, hprogram, hargs⟩
    obtain ⟨program, dir, args⟩ := i
    obtain rfl : args = c.args := hargs
    dsimp only at hprogram
    simp only [prepare, hno, Bool.false_eq_true, ↓reduceIte, hdir, bind, Except.bind, hprogram]
    rfl

end Host

namespace Course

variable {hosts : τ → Host} {programs : Programs τ} {dir : Option OsText} {state after : τ}
  {step : Step} {rest : List Step} {launches : List (Launch τ)} {completed : Bool}

theorem first (h : Course hosts programs dir state (step :: rest) launches completed after) :
    (∃ i later, (hosts state).prepare ⟨step.tool, [step.target], dir⟩ = .ok i ∧
      launches = ⟨step, state, i⟩ :: later) ∨
    (∃ fault, (hosts state).prepare ⟨step.tool, [step.target], dir⟩ = .error fault) ∧
      launches = [] := by
  cases h with
  | pass hi hp later => exact .inl ⟨_, _, hi, rfl⟩
  | fail _ hi hp => exact .inl ⟨_, _, hi, rfl⟩
  | refuse _ hi => exact .inr ⟨⟨_, hi⟩, rfl⟩

end Course

namespace Surroundings

variable {σ : Type} {s : Surroundings σ} {args : List OsText} {r : Request} {c : Config}

theorem run_of_check (hargs : CommandLine.parse args = .ok r) (hverb : r.verb = .check)
    (hc : s.Configured r.options c) (world : World σ) :
    let check : ToolCheck := ⟨c.hook.tool, s.which c.hook.tool⟩
    (s.run args world).stdout =
        ((Outcome.check check).render r.options.json).toOption.getD "" ∧
      ((s.run args world).exitStatus = some 0 ↔
        check.found ∧ OsText.Printable r.options.json check.path) := by
  intro check
  have hwork : s.work r c world = (.ok (.check check), world, []) := by rw [work, hverb]
  refine ⟨?_, ?_⟩
  · rw [stdout_of_configured world hargs hc, hwork]
    simp only [Ending.ok, conclude]
    cases (Outcome.check check).render r.options.json <;> rfl
  · have hsucceeds : s.Succeeds r c world ↔
        check.found ∧ OsText.Printable r.options.json check.path := by
      rw [Succeeds, hverb]
      rfl
    have hrefuses : s.Refuses r c ↔
        check.path = none ∨ ¬ OsText.Printable r.options.json check.path := by
      rw [Refuses, hverb]
    constructor
    · intro hstatus
      by_contra hnot
      have hrefused : s.Refuses r c := by
        rw [hrefuses]
        rw [ToolCheck.found, not_and_or, Bool.not_eq_true, Option.isSome_eq_false_iff,
          Option.isNone_iff_eq_none] at hnot
        exact hnot
      rw [exitStatus_of_refuses hargs hc hrefused] at hstatus
      exact absurd hstatus (by decide)
    · exact fun hall ↦ exitStatus_of_succeeds hargs hc (hsucceeds.2 hall)

theorem first_of_phase {s : Surroundings (Processes τ)} {hosts : τ → Host} {programs : Programs τ}
    (hs : s.executor = Host.shifting hosts programs) (hargs : CommandLine.parse args = .ok r)
    (hc : s.Configured r.options c) (hphase : r.verb.phase.isSome) {target : String}
    {later : List String} (htargets : c.hook.targets = target :: later)
    (world : World (Processes τ)) :
    let prepared := (hosts world.tools.state).prepare ⟨c.hook.tool, [target], c.hook.workingDir⟩
    let invoked := (s.run args world).world.tools.invoked
    (∃ i more, prepared = .ok i ∧ invoked = world.tools.invoked ++ i :: more) ∨
      (∃ fault, prepared = .error fault) ∧ invoked = world.tools.invoked := by
  intro prepared invoked
  obtain ⟨launches, completed, after, hcourse, hinvoked, -⟩ :=
    exists_course hs (usable_of_configured hc).plan_steps_ne_nil world
  have hall : invoked = world.tools.invoked ++ launches.map Launch.invocation := by
    rw [← hinvoked, ← (run_of_phase world hargs hc hphase).2]
  have hsteps : c.hook.plan.steps = ⟨c.hook.tool, target⟩ :: later.map (Step.mk c.hook.tool) := by
    rw [HookConfig.plan, htargets, List.map_cons]
  rw [hsteps] at hcourse
  rcases hcourse.first with ⟨i, rest, hi, rfl⟩ | ⟨hfault, rfl⟩
  · exact .inl ⟨i, rest.map Launch.invocation, hi, hall⟩
  · exact .inr ⟨hfault, hall.trans (List.append_nil _)⟩

end Surroundings

theorem OsText.ofString_ne_empty {name : String} (h : Text.isBlank name = false) :
    (OsText.ofString name).isEmpty = false := by
  rw [← Bool.not_eq_true, isEmpty_ofString_iff]
  rintro rfl
  rw [Text.isBlank_empty] at h
  cases h

namespace Host

/-- Where the folder of the steps does not matter to the way the tool is named, the tool is found
just if a step can be started, and then the path that is told leads to the program of that step. -/
theorem leadsTo_of_prepare {h : Host} (hh : h.Sound) {c : Command} {dir : Place}
    (hname : (OsText.ofString c.program).isEmpty = false) (hdir : h.enter c.dir = .ok dir)
    (hnul : ∀ path ∈ c.dir, path.hasNul = false) (hsettled : h.Settled dir (.ofString c.program)) :
    ((∃ i, h.prepare c = .ok i) ↔ (h.which c.program).isSome ∧
        ∀ a ∈ c.args, (OsText.ofString a).hasNul = false) ∧
      ∀ i, h.prepare c = .ok i → i.args = c.args ∧ i.dir = dir ∧
        ∃ path ∈ h.which c.program, h.runnable h.start path = .ok i.program := by
  cases hprogram : (OsText.ofString c.program).hasNul with
  | true =>
    have hnone (i : Invocation) : h.prepare c ≠ .ok i := by
      rw [ne_eq, prepare_eq_ok_iff, hprogram]
      exact fun hi ↦ Bool.false_ne_true hi.1.1.symm
    rw [which_eq_none_of_hasNul hh hprogram]
    exact ⟨iff_of_false (fun ⟨i, hi⟩ ↦ hnone i hi) (fun hi ↦ Bool.false_ne_true hi.1),
      fun i hi ↦ absurd hi (hnone i)⟩
  | false =>
    have hleads := leadsTo_which hh hname hprogram hsettled
    have hinvocation {i : Invocation} (hi : h.prepare c = .ok i) : i.args = c.args ∧ i.dir = dir ∧
        h.locate dir c.program = .ok i.program := by
      obtain ⟨-, hdir', hlocated, hargs⟩ := prepare_eq_ok_iff.1 hi
      obtain rfl : i.dir = dir := Except.ok.inj (hdir'.symm.trans hdir)
      exact ⟨hargs, rfl, hlocated⟩
    cases hwhich : h.which c.program with
    | none =>
      rw [hwhich] at hleads
      have hnone (i : Invocation) (hi : h.prepare c = .ok i) : False :=
        hleads i.program (hinvocation hi).2.2
      exact ⟨iff_of_false (fun ⟨i, hi⟩ ↦ hnone i hi) (fun hi ↦ Bool.false_ne_true hi.1),
        fun i hi ↦ (hnone i hi).elim⟩
    | some path =>
      rw [hwhich] at hleads
      obtain ⟨place, hrun, hlocated⟩ := hleads
      refine ⟨⟨fun ⟨i, hi⟩ ↦ ⟨rfl, (prepare_eq_ok_iff.1 hi).1.2.1⟩, fun ⟨_, hargs⟩ ↦ ?_⟩, ?_⟩
      · exact ⟨⟨place, dir, c.args⟩,
          prepare_eq_ok_iff.2 ⟨⟨hprogram, hargs, hnul⟩, hdir, hlocated, rfl⟩⟩
      · intro i hi
        obtain ⟨hargs, hdir', hplace⟩ := hinvocation hi
        rw [hlocated] at hplace
        exact ⟨hargs, hdir', path, rfl, hrun.trans hplace⟩

/-- What a check tells, and what a build does under the same settings. The tool is found just if the
first step is started, unless no process can be given its target; and the path that is told leads to
the program of that step. -/
theorem check_means_first_step {h : Host} (hh : h.Sound) (programs : Programs τ)
    {overrides : Overrides} (logFilter : Option OsText) (colored : Bool)
    (clock messageId : Nat → String) {o : Options} {c : Config}
    (hc : (h.surroundings programs overrides logFilter colored clock messageId).Configured o c)
    {target : String} {later : List String} (htargets : c.hook.targets = target :: later)
    {dir : Place} (hdir : h.enter c.hook.workingDir = .ok dir)
    (hnul : ∀ path ∈ c.hook.workingDir, path.hasNul = false)
    (hsettled : h.Settled dir (.ofString c.hook.tool)) :
    let s := h.surroundings programs overrides logFilter colored clock messageId
    let check : ToolCheck := ⟨c.hook.tool, h.which c.hook.tool⟩
    (∀ args r world, CommandLine.parse args = .ok r → r.options.config = o.config →
        r.verb = .check →
          (s.run args world).stdout =
            ((Outcome.check check).render r.options.json).toOption.getD "" ∧
          ((s.run args world).exitStatus = some 0 ↔
            check.found ∧ OsText.Printable r.options.json check.path)) ∧
      ∀ args r world, CommandLine.parse args = .ok r → r.options.config = o.config →
        r.verb.phase.isSome → let invoked := (s.run args world).world.tools.invoked
          ((∃ i more, invoked = world.tools.invoked ++ i :: more) ↔
            check.found ∧ (OsText.ofString target).hasNul = false) ∧
          ∀ i more, invoked = world.tools.invoked ++ i :: more →
            i.args = [target] ∧ i.dir = dir ∧
              ∃ path ∈ check.path, h.runnable h.start path = .ok i.program := by
  intro s check
  refine ⟨?_, ?_⟩
  · intro args r world hargs hconfig hverb
    exact Surroundings.run_of_check hargs hverb ((Surroundings.configured_iff hconfig).2 hc) world
  · intro args r world hargs hconfig hphase invoked
    have hc' := (Surroundings.configured_iff hconfig).2 hc
    have hname := OsText.ofString_ne_empty (Surroundings.usable_of_configured hc).tool
    obtain ⟨hstarted, hprogram⟩ := leadsTo_of_prepare hh (c := ⟨c.hook.tool, [target],
      c.hook.workingDir⟩) hname hdir hnul hsettled
    rw [List.forall_mem_singleton] at hstarted
    rcases Surroundings.first_of_phase (h.executor_surroundings programs overrides logFilter colored
      clock messageId) hargs hc' hphase htargets world with
      ⟨i, rest, hi, hrun⟩ | ⟨⟨fault, hi⟩, hrun⟩
    · have hinvoked : invoked = world.tools.invoked ++ i :: rest := hrun
      rw [hinvoked]
      refine ⟨iff_of_true ⟨i, rest, rfl⟩ (hstarted.1 ⟨i, hi⟩), fun j more hj ↦ ?_⟩
      rw [List.append_cancel_left_eq, List.cons.injEq] at hj
      obtain rfl : i = j := hj.1
      exact hprogram i hi
    · have hinvoked : invoked = world.tools.invoked := hrun
      have hnone (i : Invocation) (more : List Invocation) :
          invoked ≠ world.tools.invoked ++ i :: more := by
        rw [hinvoked]
        simp
      refine ⟨iff_of_false (fun ⟨i, more, hj⟩ ↦ hnone i more hj) fun hfound ↦ ?_,
        fun i more hj ↦ absurd hj (hnone i more)⟩
      obtain ⟨i, hi'⟩ := hstarted.2 hfound
      have hno := hi.symm.trans hi'
      cases hno

/-- A program lies in the folder that a build starts in, make is on the path, and the steps run in a
folder below. -/
def withFolder : Host :=
  ⟨⟨[([.ofString "w", .ofString "mk"], .file (.ofString "") true),
    ([.ofString "w", .ofString "bin", .ofString "make"], .file (.ofString "") true),
    ([.ofString "w", .ofString "sub"], .folder)]⟩, [.ofString "w"], [.ofString "/w/bin"]⟩

def buildingWith (tool : Option OsText) : Surroundings (Processes Unit) :=
  withFolder.surroundings (fun _ _ ↦ (⟨.ofCode 0, "", .zero⟩, ())) ⟨tool, some (.ofString "sub")⟩
    none false (fun _ ↦ "") (fun _ ↦ "")

theorem configured_buildingWith {tool : Option OsText} {c : Config} {o : Options}
    (ho : o.config = none)
    (hmerge : Config.default.mergeEnv ⟨tool, some (.ofString "sub")⟩ = (c, .ok ())) :
    (buildingWith tool).Configured o c := by
  have hfiles : (buildingWith tool).files = (buildingWith none).files := rfl
  have habsent : (buildingWith none).files.isThere Config.defaultPath = false := by decide +kernel
  refine ⟨.default, ?_, hmerge⟩
  rw [ho, Config.load, Config.chosenPath, hfiles, habsent]
  rfl

theorem check_means_first_step_of_make :
    let s := buildingWith none
    let world : World (Processes Unit) := ⟨⟨(), [], ""⟩, fun _ ↦ ""⟩
    (s.run [.ofString "check"] world).stdout = "[OK] make found at /w/bin/make\n" ∧
      (s.run [.ofString "check"] world).exitStatus = some 0 ∧
      ∃ more, (s.run [.ofString "build-ext"] world).world.tools.invoked =
        ⟨[.ofString "w", .ofString "bin", .ofString "make"], [.ofString "w", .ofString "sub"],
          ["compiler"]⟩ :: more := by
  intro s world
  have hsound : withFolder.Sound :=
    ⟨by decide +kernel, by decide +kernel, by decide +kernel, by decide +kernel⟩
  have hc : s.Configured ⟨false, false, none⟩ ⟨⟨"make", ["compiler", "compiler-api"],
      some (.ofString "sub")⟩, .default⟩ := configured_buildingWith rfl (by decide +kernel)
  have hdir : withFolder.enter (some (.ofString "sub")) = .ok [.ofString "w", .ofString "sub"] := by
    decide +kernel
  have hnul : ∀ path ∈ some (OsText.ofString "sub"), path.hasNul = false := by decide +kernel
  have hsettled : withFolder.Settled [.ofString "w", .ofString "sub"] (.ofString "make") :=
    .name (by decide +kernel) (.inr (by decide +kernel)) (by decide +kernel)
  have hfound : withFolder.which "make" = some (.ofString "/w/bin/make") := by decide +kernel
  have hplace : withFolder.runnable withFolder.start (.ofString "/w/bin/make") =
      .ok [.ofString "w", .ofString "bin", .ofString "make"] := by decide +kernel
  obtain ⟨hcheck, hbuild⟩ :=
    check_means_first_step hsound _ none false _ _ hc rfl hdir hnul hsettled
  obtain ⟨hstdout, hstatus⟩ :=
    hcheck [.ofString "check"] ⟨.check, ⟨false, false, none⟩⟩ world rfl rfl rfl
  obtain ⟨hstarted, hfirst⟩ :=
    hbuild [.ofString "build-ext"] ⟨.buildExt, ⟨false, false, none⟩⟩ world rfl rfl rfl
  dsimp only at hstdout hstatus hstarted hfirst
  rw [hfound] at hstdout hstatus hstarted hfirst
  obtain ⟨⟨program, dir, args⟩, more, hinvoked⟩ := hstarted.2 ⟨rfl, by decide +kernel⟩
  obtain ⟨rfl, rfl, path, hpath, hprogram⟩ := hfirst _ _ hinvoked
  cases hpath
  obtain rfl := Except.ok.inj (hplace.symm.trans hprogram)
  exact ⟨hstdout, hstatus.2 ⟨rfl, nofun⟩, more, hinvoked⟩

/-- From the folder that the build starts in there is such a program; from the folder of its steps
there is none. -/
theorem check_misses_folder :
    let s := buildingWith (some (.ofString "./mk"))
    let world : World (Processes Unit) := ⟨⟨(), [], ""⟩, fun _ ↦ ""⟩
    (∃ c, s.Configured ⟨false, false, none⟩ c ∧
        withFolder.enter c.hook.workingDir = .ok [.ofString "w", .ofString "sub"]) ∧
      (s.run [.ofString "check"] world).stdout = "[OK] ./mk found at /w/mk\n" ∧
      (s.run [.ofString "check"] world).exitStatus = some 0 ∧
      (s.run [.ofString "build-ext"] world).exitStatus = some 255 ∧
      (s.run [.ofString "build-ext"] world).world.tools.invoked = [] := by
  intro s world
  have hc : s.Configured ⟨false, false, none⟩ ⟨⟨"./mk", ["compiler", "compiler-api"],
      some (.ofString "sub")⟩, .default⟩ := configured_buildingWith rfl (by decide +kernel)
  have hargs : CommandLine.parse [.ofString "build-ext"] =
      .ok ⟨.buildExt, ⟨false, false, none⟩⟩ := rfl
  obtain ⟨hstatus, hworld⟩ := Surroundings.run_of_phase world hargs hc rfl
  refine ⟨⟨_, hc, by decide +kernel⟩, by decide +kernel, by decide +kernel, ?_, ?_⟩
  · rw [hstatus]
    decide +kernel
  · rw [hworld]
    decide +kernel

end Host

end BuildHook
