import Mathlib.Data.List.DropRight
import BuildHook.Proofs.Config.Precedence
import BuildHook.Proofs.Program.Ended

namespace BuildHook

namespace Text

def trim (s : String) : String := .ofList ((s.toList.dropWhile isSpace).rdropWhile isSpace)

theorem trim_eq_empty_iff {s : String} : trim s = "" ↔ isBlank s = true := by
  rw [trim, isBlank, String.ofList_eq_empty_iff, List.rdropWhile_eq_nil_iff, List.all_eq_true]
  constructor
  · intro h
    rw [← List.dropWhile_eq_nil_iff]
    by_contra hleft
    -- the first character that is left is no white space
    have hspace : isSpace ((s.toList.dropWhile isSpace).head hleft) = true :=
      h _ (List.head_mem hleft)
    rw [List.head_dropWhile_not isSpace hleft] at hspace
    nomatch hspace
  · intro h c hc
    exact h c ((List.dropWhile_sublist _).mem hc)

end Text

namespace Surroundings

variable {σ : Type} {s : Surroundings σ} {r : Request}

theorem isStepFailure_of_perform {world : World σ} {b : BuildError}
    (h : (s.perform r world).conclusion = .abort (.work (.build b))) :
    (Error.build b).isStepFailure = true := by
  cases endedBy_of_perform h with
  | settings hsettings =>
    rcases s.settings_cases r.options with ⟨c, hc⟩ | ⟨fault, file, herror⟩ | ⟨wrong, herror⟩
    · cases hsettings.symm.trans (settings_of_configured hc)
    · cases hsettings.symm.trans herror
    · cases hsettings.symm.trans herror
  | step hc hphase hfail =>
    exact isStepFailure_of_fail (usable_of_configured hc).plan_steps_ne_nil hfail

end Surroundings

theorem Config.Usable.plan_visible {c : Config} (h : c.Usable) {step : Step}
    (hstep : step ∈ c.hook.plan.steps) :
    step.tool = c.hook.tool ∧ Text.trim step.tool ≠ "" ∧ Text.trim step.target ≠ "" := by
  obtain ⟨target, htarget, rfl⟩ := List.mem_map.1 hstep
  refine ⟨rfl, ?_, ?_⟩
  · rw [ne_eq, Text.trim_eq_empty_iff, h.tool]
    exact Bool.false_ne_true
  · rw [ne_eq, Text.trim_eq_empty_iff, h.target target htarget]
    exact Bool.false_ne_true

theorem HookConfig.plan_targets (c : HookConfig) : c.plan.steps.map Step.target = c.targets := by
  rw [plan, List.map_map]
  exact List.map_id _

namespace Surroundings

variable {σ : Type}

/-- Whatever settings are loaded, they stay usable under any environment, also where it is refused,
and they make a plan; so the program never ends for the lack of steps. -/
theorem planned_of_load (s : Surroundings σ) (r : Request) (world : World σ) :
    (∀ loaded, (Config.load s.files r.options.config).1 = .ok loaded →
      let c := (loaded.mergeEnv s.overrides).1
      c.validate = .ok () ∧
      ∃ p, Plan.ofConfig c.hook = .ok p ∧ p.isEmpty = false ∧
        p.steps.map Step.target = c.hook.targets ∧
        (∀ step ∈ p.steps, step.tool = c.hook.tool ∧
          Text.trim step.tool ≠ "" ∧ Text.trim step.target ≠ "") ∧
        p.workingDir = c.hook.workingDir) ∧
    (s.perform r world).conclusion ≠ .abort (.work (.build .emptyPlan)) := by
  constructor
  · intro loaded hload c
    have husable : c.Usable := (Config.usable_of_load hload).mergeEnv s.overrides
    refine ⟨Config.validate_eq_ok_iff.2 husable, c.hook.plan, Plan.ofConfig_eq husable.targets, ?_,
      c.hook.plan_targets, fun step hstep ↦ husable.plan_visible hstep, rfl⟩
    rw [Plan.isEmpty, List.isEmpty_eq_false_iff]
    exact husable.plan_steps_ne_nil
  · intro h
    nomatch isStepFailure_of_perform h

theorem planned_of_load_refused :
    let s := (Config.settingsOnly "[hook]\ntargets = [\"kernel\", \"tests\"]\n").surroundings
      (fun (_ : Unit) _ ↦ (⟨.ofCode 0, "", .zero⟩, ()))
      ⟨some (.ofString "ninja"), some (.ofString "")⟩ none false (fun _ ↦ "") (fun _ ↦ "")
    let loaded : Config := ⟨⟨"make", ["kernel", "tests"], none⟩, .default⟩
    let c : Config := ⟨⟨"ninja", ["kernel", "tests"], none⟩, .default⟩
    (Config.load s.files none).1 = .ok loaded ∧
      loaded.mergeEnv s.overrides = (c, .error (.invalidValue "EXTBUILD_WORKING_DIR" "")) ∧
      c.validate = .ok () ∧
      ∃ p, Plan.ofConfig c.hook = .ok p ∧ p.steps.map Step.target = ["kernel", "tests"] ∧
        ∀ step ∈ p.steps, step.tool = "ninja" := by
  intro s loaded c
  have hload : (Config.load s.files none).1 = .ok loaded :=
    Config.eq_ok_of_toOption (by decide +kernel)
  have hmerge : loaded.mergeEnv s.overrides =
      (c, .error (.invalidValue "EXTBUILD_WORKING_DIR" "")) := by
    have htool : loaded.mergeTool s.overrides.tool = .ok c :=
      Config.mergeTool_eq_ok_iff.2 (.inr ⟨"ninja", rfl, by decide, rfl⟩)
    rw [Config.mergeEnv, htool]
    rfl
  have hplanned := (s.planned_of_load ⟨.build, ⟨false, false, none⟩⟩
    ⟨⟨(), [], ""⟩, fun _ ↦ ""⟩).1 loaded hload
  rw [hmerge] at hplanned
  obtain ⟨hvalid, p, hp, -, htargets, hsteps, -⟩ := hplanned
  exact ⟨hload, hmerge, hvalid, p, hp, htargets, fun step hstep ↦ (hsteps step hstep).1⟩

end Surroundings

end BuildHook
