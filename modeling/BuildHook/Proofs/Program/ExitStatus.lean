import BuildHook.Proofs.Program.Conclusion
import BuildHook.Proofs.Program.Phase
import BuildHook.Proofs.Program.Settings

namespace BuildHook

namespace Surroundings

variable {σ : Type} (s : Surroundings σ)

/-- Nothing goes wrong with what is requested. -/
def Succeeds (r : Request) (c : Config) (world : World σ) : Prop :=
  match r.verb with
  | .plan => OsText.Printable r.options.json c.hook.workingDir
  | .check => (s.which c.hook.tool).isSome ∧
      OsText.Printable r.options.json (s.which c.hook.tool)
  | .info => True
  | _ => ∀ a ∈ s.prospect c.hook.plan world, a.reply.answer = .ended (.ofCode 0)

/-- Something goes wrong other than a step. -/
def Refuses (r : Request) (c : Config) : Prop :=
  match r.verb with
  | .plan => ¬ OsText.Printable r.options.json c.hook.workingDir
  | .check => s.which c.hook.tool = none ∨
      ¬ OsText.Printable r.options.json (s.which c.hook.tool)
  | _ => False

section Work

variable {s} {r : Request} {c : Config} (world : World σ)

theorem work_eq_runPhase {phase : Phase} (hphase : r.verb.phase = some phase) (hc : c.Usable) :
    s.work r c world =
      ((s.runPhase r.options.json c.hook.plan phase world).1.map .phase,
        (s.runPhase r.options.json c.hook.plan phase world).2) := by
  obtain ⟨verb, options⟩ := r
  simp only [work, Plan.ofConfig_eq hc.targets]
  cases verb with
  | buildExt | build | install =>
    obtain rfl := Option.some.inj hphase
    rfl
  | plan | check | info => nomatch hphase

theorem work_of_phase {phase : Phase} (hphase : r.verb.phase = some phase) (hc : c.Usable) :
    (s.work r c world).1 = ((s.hook c.hook.plan world).run world.draw.2).ending.map
        (fun report ↦ .phase ⟨phase, [report]⟩) ∧
      (s.work r c world).2.1 = ((s.hook c.hook.plan world).run world.draw.2).world := by
  obtain ⟨hending, hworld, -⟩ := s.runPhase_eq c.hook.plan world r.options.json phase
  rw [work_eq_runPhase world hphase hc, hending, hworld, Ending.map_map]
  exact ⟨rfl, rfl⟩

theorem work_of_plan (hverb : r.verb = .plan) (hc : c.Usable) :
    s.work r c world = (.ok (.plan c.hook.plan), world, []) := by
  rw [work, hverb]
  simp only [Plan.ofConfig_eq hc.targets]
  rfl

def statusOfCall : Ending HookReport → Option Nat
  | .pending => none
  | .done (.error e) => some (if e.isStepFailure then 255 else 1)
  | .done (.ok _) => some 0

theorem statusOf_phase (json : Bool) (phase : Phase) (ending : Ending HookReport) :
    statusOf json (ending.map fun report ↦ .phase ⟨phase, [report]⟩) = statusOfCall ending := by
  cases ending with
  | ok report => exact statusOf_ok (OsText.printable_none _) rfl
  | fail e => exact statusOf_fail json e
  | pending => exact statusOf_pending json

variable {args : List OsText} (hargs : CommandLine.parse args = .ok r)

include hargs

theorem run_of_configured (h : s.Configured r.options c) :
    (s.run args world).exitStatus = statusOf r.options.json (s.work r c world).1 ∧
      (s.run args world).world = (s.work r c world).2.1 := by
  obtain ⟨hconclusion, hworld⟩ := perform_of_configured world h
  simp only [run, hargs, hconclusion, hworld, and_true]
  rfl

theorem stdout_of_configured (h : s.Configured r.options c) :
    (s.run args world).stdout = (conclude r.options.json (s.work r c world).1).1.getD "" := by
  simp only [run, hargs]
  rw [perform_eq_of_configured world h]

theorem run_of_not_configured (h : ∀ c, ¬ s.Configured r.options c) :
    (s.run args world).exitStatus = some 1 ∧ (s.run args world).world = world := by
  obtain ⟨e, hsettings, he⟩ := settings_of_not_configured h
  obtain ⟨hconclusion, hworld⟩ := perform_of_error world hsettings
  have hstatus := statusOf_fail r.options.json e
  rw [he] at hstatus
  simp only [run, hargs, hconclusion, hworld, and_true]
  exact hstatus

theorem run_of_phase (hc : s.Configured r.options c) (hphase : r.verb.phase.isSome) :
    (s.run args world).exitStatus =
        statusOfCall ((s.hook c.hook.plan world).run world.draw.2).ending ∧
      (s.run args world).world = ((s.hook c.hook.plan world).run world.draw.2).world := by
  obtain ⟨phase, hphase⟩ := Option.isSome_iff_exists.1 hphase
  obtain ⟨hstatus, hworld⟩ := run_of_configured world hargs hc
  obtain ⟨hending, hafter⟩ := work_of_phase world hphase (usable_of_configured hc)
  rw [hstatus, hworld, hending, hafter, statusOf_phase]
  exact ⟨rfl, rfl⟩

end Work

section Status

variable {s} {args : List OsText} {r : Request} {c : Config} {world : World σ}
  (hargs : CommandLine.parse args = .ok r) (hc : s.Configured r.options c)

include hargs hc

theorem exitStatus_of_fails (hphase : r.verb.phase.isSome)
    (h : s.StopsAt c.hook.plan world Attempt.Fails) :
    (s.run args world).exitStatus = some 255 := by
  obtain ⟨e, hending, he⟩ := run_hook_of_fails (usable_of_configured hc).plan_steps_ne_nil h
  rw [(run_of_phase world hargs hc hphase).1, hending]
  simp only [Ending.fail, statusOfCall, he, ↓reduceIte]

theorem exitStatus_of_hangs (hphase : r.verb.phase.isSome)
    (h : s.StopsAt c.hook.plan world (·.reply.answer = .never)) :
    (s.run args world).exitStatus = none := by
  have hending := run_hook_of_hangs (usable_of_configured hc).plan_steps_ne_nil h
  rw [(run_of_phase world hargs hc hphase).1, hending, statusOfCall]

theorem exitStatus_of_passes (hphase : r.verb.phase.isSome)
    (h : ∀ a ∈ s.prospect c.hook.plan world, a.reply.answer = .ended (.ofCode 0)) :
    (s.run args world).exitStatus = some 0 := by
  obtain ⟨report, hending⟩ := run_hook_of_passes (usable_of_configured hc).plan_steps_ne_nil h
  rw [(run_of_phase world hargs hc hphase).1, hending]
  rfl

theorem run_tools_eq {phase : Phase} (hphase : r.verb.phase = some phase) :
    (s.run args world).world.tools = (s.asked c.hook.plan world phase).foldl
      (fun tools command ↦ (s.executor tools command).2) world.tools := by
  have hplan := (usable_of_configured hc).plan_steps_ne_nil
  have htools := Hook.run_tools world.draw.2 hplan (s.hook_ready c.hook.plan world)
  rw [← (s.runPhase_eq c.hook.plan world true phase).2.2] at htools
  rw [(run_of_phase world hargs hc (Option.isSome_of_eq_some hphase)).2, htools]
  rfl

theorem exitStatus_of_succeeds (h : s.Succeeds r c world) :
    (s.run args world).exitStatus = some 0 := by
  cases hverb : r.verb with
  | buildExt | build | install =>
    have hphase : r.verb.phase.isSome := by rw [hverb]; rfl
    rw [Succeeds, hverb] at h
    exact exitStatus_of_passes hargs hc hphase h
  | plan =>
    rw [Succeeds, hverb] at h
    rw [(run_of_configured world hargs hc).1, work_of_plan world hverb (usable_of_configured hc)]
    exact statusOf_ok h rfl
  | check =>
    rw [Succeeds, hverb] at h
    obtain ⟨hfound, hprintable⟩ := h
    rw [(run_of_configured world hargs hc).1, work, hverb]
    refine statusOf_ok hprintable ?_
    simp only [Outcome.complaint, ToolCheck.found, hfound, ↓reduceIte]
  | info =>
    rw [(run_of_configured world hargs hc).1, work, hverb]
    exact statusOf_ok (OsText.printable_none _) rfl

theorem exitStatus_of_refuses (h : s.Refuses r c) : (s.run args world).exitStatus = some 1 := by
  cases hverb : r.verb with
  | buildExt | build | install | info =>
    rw [Refuses, hverb] at h
    exact h.elim
  | plan =>
    rw [Refuses, hverb] at h
    rw [(run_of_configured world hargs hc).1, work_of_plan world hverb (usable_of_configured hc)]
    exact statusOf_ok_eq_one (.inl h)
  | check =>
    rw [Refuses, hverb] at h
    rw [(run_of_configured world hargs hc).1, work, hverb]
    refine statusOf_ok_eq_one ?_
    rcases h with hmissing | hunprintable
    · right
      simp only [Outcome.complaint, ToolCheck.found, hmissing]
      exact Option.some_ne_none _
    · exact .inl hunprintable

end Status

theorem succeeds_or_refuses_or_stopsAt (r : Request) (c : Config) (world : World σ) :
    s.Succeeds r c world ∨ s.Refuses r c ∨
      (r.verb.phase.isSome ∧ (s.StopsAt c.hook.plan world Attempt.Fails ∨
        s.StopsAt c.hook.plan world (·.reply.answer = .never))) := by
  rw [Succeeds, Refuses]
  cases r.verb with
  | buildExt | build | install =>
    rcases s.passes_or_stopsAt c.hook.plan world with h | h
    · exact .inl h
    · exact .inr (.inr ⟨rfl, h⟩)
  | plan =>
    by_cases h : OsText.Printable r.options.json c.hook.workingDir
    · exact .inl h
    · exact .inr (.inl h)
  | check =>
    by_cases hprintable : OsText.Printable r.options.json (s.which c.hook.tool)
    · cases hfound : s.which c.hook.tool with
      | none => exact .inr (.inl (.inl rfl))
      | some path => exact .inl ⟨rfl, hfound ▸ hprintable⟩
    · exact .inr (.inl (.inr hprintable))
  | info => exact .inl trivial

/-- Phases differ in what they are called, and options other than the path of the settings in what
is shown: neither matters to the build. -/
theorem run_of_phases {args args' : List OsText} {r r' : Request}
    (hargs : CommandLine.parse args = .ok r) (hargs' : CommandLine.parse args' = .ok r')
    (hpath : r'.options.config = r.options.config) (hphase : r.verb.phase.isSome)
    (hphase' : r'.verb.phase.isSome) (world : World σ) :
    (s.run args' world).exitStatus = (s.run args world).exitStatus ∧
      (s.run args' world).world = (s.run args world).world := by
  have hsame (c : Config) : s.Configured r'.options c ↔ s.Configured r.options c :=
    configured_iff hpath
  by_cases hconfigured : ∃ c, s.Configured r.options c
  · obtain ⟨c, hc⟩ := hconfigured
    obtain ⟨hstatus, hworld⟩ := run_of_phase world hargs hc hphase
    obtain ⟨hstatus', hworld'⟩ := run_of_phase world hargs' ((hsame c).2 hc) hphase'
    rw [hstatus, hworld, hstatus', hworld']
    exact ⟨rfl, rfl⟩
  · rw [not_exists] at hconfigured
    obtain ⟨hstatus, hworld⟩ := run_of_not_configured world hargs hconfigured
    obtain ⟨hstatus', hworld'⟩ := run_of_not_configured world hargs'
      fun c hc ↦ hconfigured c ((hsame c).1 hc)
    rw [hstatus, hworld, hstatus', hworld']
    exact ⟨rfl, rfl⟩

theorem asked_eq_asked (p : Plan) (world : World σ) (phase phase' : Phase) :
    s.asked p world phase = s.asked p world phase' := by
  rw [(s.runPhase_eq p world true phase).2.2, (s.runPhase_eq p world true phase').2.2]

/-- What the program exits with on a request. The last part says that one phase is like another:
the executor is asked for the same commands and the status is the same, whatever is shown. -/
theorem run_exitStatus {args : List OsText} {r : Request} (hargs : CommandLine.parse args = .ok r)
    (world : World σ) :
    let status := (s.run args world).exitStatus
    (status = some 255 ↔ r.verb.phase.isSome ∧
        ∃ c, s.Configured r.options c ∧ s.StopsAt c.hook.plan world Attempt.Fails) ∧
      (status = some 0 ↔ ∃ c, s.Configured r.options c ∧ s.Succeeds r c world) ∧
      (status = some 1 ↔ (∀ c, ¬ s.Configured r.options c) ∨
        ∃ c, s.Configured r.options c ∧ s.Refuses r c) ∧
      (status = none ↔ r.verb.phase.isSome ∧
        ∃ c, s.Configured r.options c ∧ s.StopsAt c.hook.plan world (·.reply.answer = .never)) ∧
      status ∈ [none, some 0, some 1, some 255] ∧
      ∀ phase, r.verb.phase = some phase →
        (∀ c, s.Configured r.options c →
          (s.run args world).world.tools = (s.asked c.hook.plan world phase).foldl
            (fun tools command ↦ (s.executor tools command).2) world.tools) ∧
        ∀ args' r' phase', CommandLine.parse args' = .ok r' →
          r'.options.config = r.options.config → r'.verb.phase = some phase' →
            (s.run args' world).exitStatus = status ∧
            (s.run args' world).world = (s.run args world).world ∧
            ∀ p, s.asked p world phase' = s.asked p world phase := by
  intro status
  have hunset (h : ∀ c, ¬ s.Configured r.options c) : status = some 1 :=
    (run_of_not_configured world hargs h).1
  have hrefuses {c : Config} (hc : s.Configured r.options c) (h : s.Refuses r c) :
      status = some 1 := exitStatus_of_refuses hargs hc h
  have hsucceeds {c : Config} (hc : s.Configured r.options c) (h : s.Succeeds r c world) :
      status = some 0 := exitStatus_of_succeeds hargs hc h
  have hfails {c : Config} (hc : s.Configured r.options c) (hphase : r.verb.phase.isSome)
      (h : s.StopsAt c.hook.plan world Attempt.Fails) : status = some 255 :=
    exitStatus_of_fails hargs hc hphase h
  have hhangs {c : Config} (hc : s.Configured r.options c) (hphase : r.verb.phase.isSome)
      (h : s.StopsAt c.hook.plan world (·.reply.answer = .never)) : status = none :=
    exitStatus_of_hangs hargs hc hphase h
  have hcases : (∀ c, ¬ s.Configured r.options c) ∨ ∃ c, s.Configured r.options c ∧
      (s.Succeeds r c world ∨ s.Refuses r c ∨ (r.verb.phase.isSome ∧
        (s.StopsAt c.hook.plan world Attempt.Fails ∨
          s.StopsAt c.hook.plan world (·.reply.answer = .never)))) := by
    by_cases h : ∃ c, s.Configured r.options c
    · obtain ⟨c, hc⟩ := h
      exact .inr ⟨c, hc, s.succeeds_or_refuses_or_stopsAt r c world⟩
    · exact .inl (not_exists.1 h)
  -- the ways exclude each other by their statuses, so each of them is necessary as well
  refine ⟨by grind, by grind, by grind, by grind, by grind, ?_⟩
  intro phase hphase
  refine ⟨fun c hc ↦ run_tools_eq hargs hc hphase, ?_⟩
  intro args' r' phase' hargs' hpath hphase'
  obtain ⟨hstatus, hworld⟩ := s.run_of_phases hargs hargs' hpath
    (Option.isSome_of_eq_some hphase) (Option.isSome_of_eq_some hphase') world
  exact ⟨hstatus, hworld, fun p ↦ s.asked_eq_asked p world phase' phase⟩

/-- Where make is there but fails for a target, and nothing is set. -/
def failingOn (target : String) : Surroundings (Processes Unit) :=
  Host.surroundings
    ⟨⟨[([.ofString "bin", .ofString "make"], .file (.ofString "") true)]⟩, [.ofString "bin"],
      [.ofString "/bin"]⟩
    (fun _ i ↦ (⟨.ofCode (if i.args = [target] then 2 else 0), "", .zero⟩, ()))
    ⟨none, none⟩ none false (fun _ ↦ "") (fun _ ↦ "")

theorem configured_failingOn (target : String) {o : Options} (h : o.config = none) :
    (failingOn target).Configured o .default := by
  have habsent : (failingOn target).files.isThere Config.defaultPath = false := by
    have hfiles : (failingOn target).files = (failingOn "").files := rfl
    rw [hfiles]
    decide +kernel
  refine ⟨.default, ?_, rfl⟩
  rw [h, Config.load, Config.chosenPath, habsent]
  rfl

theorem run_exitStatus_of_failing_target :
    let s := failingOn "compiler-api"
    let world : World (Processes Unit) := ⟨⟨(), [], ""⟩, fun _ ↦ ""⟩
    CommandLine.parse [.ofString "build"] = .ok ⟨.build, ⟨false, false, none⟩⟩ ∧
      (s.run [.ofString "build"] world).exitStatus = some 255 ∧
      (s.run [.ofString "install", .ofString "--json"] world).exitStatus = some 255 := by
  intro s world
  have hargs : CommandLine.parse [.ofString "build"] = .ok ⟨.build, ⟨false, false, none⟩⟩ := rfl
  have hargs' : CommandLine.parse [.ofString "install", .ofString "--json"] =
      .ok ⟨.install, ⟨true, false, none⟩⟩ := rfl
  have habsent : s.files.isThere Config.defaultPath = false := by decide +kernel
  have hload : (Config.load s.files none).1 = .ok .default := by
    rw [Config.load, Config.chosenPath, habsent]
    rfl
  have hconfigured : s.Configured ⟨false, false, none⟩ .default := ⟨_, hload, rfl⟩
  have hanswers : (s.prospect Config.default.hook.plan world).map (·.reply.answer) =
      [.ended (.ofCode 0), .ended (.ofCode 2)] := by decide +kernel
  have hstops : s.StopsAt Config.default.hook.plan world Attempt.Fails := by
    simp only [List.map_eq_cons_iff, List.map_eq_nil_iff] at hanswers
    obtain ⟨a, _, hattempts, ha, b, _, rfl, hb, rfl⟩ := hanswers
    refine ⟨[a], b, [], hattempts, ?_, ?_, ?_⟩
    · simp [ha]
    · rw [hb]
      decide
    · rw [Attempt.Fails, hb]
      decide
  obtain ⟨hfails, -, -, -, -, hphases⟩ := s.run_exitStatus hargs world
  have hstatus := hfails.2 ⟨rfl, _, hconfigured, hstops⟩
  refine ⟨hargs, hstatus, ?_⟩
  rw [((hphases _ rfl).2 _ _ _ hargs' rfl rfl).1]
  exact hstatus

end Surroundings

theorem Hook.exists_eq_attempt {σ : Type} {hook : Hook σ} {steps : List Step} {tools : σ}
    {a : Attempt} (h : a ∈ hook.attempts steps tools) : ∃ tools, a = hook.attempt a.step tools := by
  induction steps generalizing tools with
  | nil => nomatch h
  | cons step rest ih =>
    rcases List.mem_cons.1 h with rfl | h
    · exact ⟨tools, rfl⟩
    · exact ih h

namespace Host

variable {τ : Type} (h : Host) (programs : Programs τ)

theorem answer_ne_never (processes : Processes τ) (c : Command) :
    (h.executor programs processes c).1.answer ≠ .never := by
  unfold executor
  cases h.prepare c <;> nofun

/-- A program on a host comes to an end, so a build does as well. -/
theorem not_stopsAt_never (overrides : Overrides) (logFilter : Option OsText) (colored : Bool)
    (clock messageId : Nat → String) (p : Plan) (world : World (Processes τ)) :
    ¬ (h.surroundings programs overrides logFilter colored clock messageId).StopsAt p world
      (·.reply.answer = .never) := by
  rintro ⟨passed, a, left, hall, -, -, hnever⟩
  have hmem : a ∈ passed ++ a :: left := List.mem_append_right _ (List.mem_cons_self)
  rw [← hall] at hmem
  obtain ⟨tools, ha⟩ := Hook.exists_eq_attempt hmem
  rw [ha] at hnever
  exact h.answer_ne_never programs _ _ hnever

end Host

end BuildHook
