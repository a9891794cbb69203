import BuildHook.Config.Load
import BuildHook.Plan

namespace BuildHook

namespace Config

/-- There is a tool, there are targets, and none of them is blank. -/
structure Usable (c : Config) : Prop where
  tool : Text.isBlank c.hook.tool = false
  targets : c.hook.targets ≠ []
  target : ∀ t ∈ c.hook.targets, Text.isBlank t = false

variable {c : Config}

theorem validate_eq_ok_iff : c.validate = .ok () ↔ c.Usable := by
  unfold validate
  constructor
  · intro h
    split at h
    · nomatch h
    · next htool =>
      split at h
      · nomatch h
      · next htargets =>
        split at h
        · nomatch h
        · next hnone =>
          rw [List.find?_eq_none] at hnone
          simp only [List.isEmpty_iff] at htargets
          exact ⟨Bool.eq_false_iff.2 htool, htargets, fun t ht ↦ Bool.eq_false_iff.2 (hnone t ht)⟩
  · intro h
    have hnone : c.hook.targets.find? Text.isBlank = none := by
      rw [List.find?_eq_none]
      intro t ht
      rw [h.target t ht]
      exact Bool.false_ne_true
    have htargets : c.hook.targets.isEmpty = false := by
      rw [← Bool.not_eq_true, List.isEmpty_iff]
      exact h.targets
    simp only [h.tool, htargets, hnone, Bool.false_eq_true, ↓reduceIte]

theorem usable_default : default.Usable where
  tool := by decide
  targets := List.cons_ne_nil _ _
  target := by decide

theorem ofText_eq_ok_iff {s : String} :
    ofText s = .ok c ↔ ∃ doc, Toml.parse? s = some doc ∧ ofToml? doc = some c ∧ c.Usable := by
  rw [ofText]
  constructor
  · intro h
    split at h
    · nomatch h
    · next read hread =>
      cases hvalid : read.validate with
      | error e =>
        rw [hvalid] at h
        nomatch h
      | ok =>
        rw [hvalid] at h
        obtain rfl : read = c := Except.ok.inj h
        obtain ⟨doc, hdoc, hc⟩ := Option.bind_eq_some_iff.1 hread
        exact ⟨doc, hdoc, hc, validate_eq_ok_iff.1 hvalid⟩
  · rintro ⟨doc, hdoc, hc, husable⟩
    have hvalid : c.validate = .ok () := validate_eq_ok_iff.2 husable
    simp only [hdoc, Option.bind_some, hc, hvalid]
    rfl

section Load

variable {files : Files}

theorem loadFile_cases (files : Files) (path : OsText) :
    (∃ fault, loadFile files path = .error (.system fault (some path))) ∨
      (∃ e, loadFile files path = .error (.config e)) ∨
      ∃ s c, ofText s = .ok c ∧ loadFile files path = .ok c := by
  unfold loadFile
  split
  · next fault _ =>
    split
    · exact .inr (.inl ⟨_, rfl⟩)
    · exact .inl ⟨fault, rfl⟩
  · split
    · exact .inl ⟨.notText, rfl⟩
    · next s _ =>
      cases hread : ofText s with
      | error e => exact .inr (.inl ⟨e, rfl⟩)
      | ok c => exact .inr (.inr ⟨s, c, hread, rfl⟩)

theorem load_of_chosenPath_none {path : Option OsText} (h : chosenPath files path = none) :
    (load files path).1 = .ok default := by
  rw [load, h]

theorem load_of_chosenPath_some {path : Option OsText} {chosen : OsText}
    (h : chosenPath files path = some chosen) :
    (load files path).1 = loadFile files chosen := by
  rw [load, h]
  dsimp only
  cases loadFile files chosen <;> rfl

theorem load_cases (files : Files) (path : Option OsText) :
    (load files path).1 = .ok default ∨
      ∃ chosen, (load files path).1 = loadFile files chosen := by
  cases h : chosenPath files path with
  | none => exact .inl (load_of_chosenPath_none h)
  | some chosen => exact .inr ⟨chosen, load_of_chosenPath_some h⟩

theorem usable_of_loadFile {path : OsText} (h : loadFile files path = .ok c) : c.Usable := by
  rcases loadFile_cases files path with ⟨_, hload⟩ | ⟨_, hload⟩ | ⟨s, read, hread, hload⟩
  · nomatch hload.symm.trans h
  · nomatch hload.symm.trans h
  · obtain rfl : read = c := Except.ok.inj (hload.symm.trans h)
    obtain ⟨_, -, -, husable⟩ := ofText_eq_ok_iff.1 hread
    exact husable

theorem usable_of_load {path : Option OsText} (h : (load files path).1 = .ok c) : c.Usable := by
  rcases load_cases files path with hload | ⟨chosen, hload⟩
  · obtain rfl : default = c := Except.ok.inj (hload.symm.trans h)
    exact usable_default
  · exact usable_of_loadFile (hload.symm.trans h)

end Load

section Merge

variable {d : Config}

theorem mergeTool_eq_ok_iff {value : Option OsText} :
    c.mergeTool value = .ok d ↔
      (value = none ∧ d = c) ∨ ∃ tool, value = some (.ofString tool) ∧
        Text.isBlank tool = false ∧ d = { c with hook := { c.hook with tool } } := by
  unfold mergeTool
  constructor
  · intro h
    split at h
    · exact .inl ⟨rfl, (Except.ok.inj h).symm⟩
    · split at h
      · nomatch h
      · next tool htool =>
        split at h
        · nomatch h
        · next hblank =>
          obtain rfl := OsText.ofString_of_toString? htool
          exact .inr ⟨tool, rfl, Bool.eq_false_iff.2 hblank, (Except.ok.inj h).symm⟩
  · rintro (⟨rfl, rfl⟩ | ⟨tool, rfl, hblank, rfl⟩)
    · rfl
    · simp only [OsText.toString?_ofString, hblank, Bool.false_eq_true, ↓reduceIte]

theorem mergeWorkingDir_eq_ok_iff {value : Option OsText} :
    c.mergeWorkingDir value = .ok d ↔
      (value = none ∧ d = c) ∨ ∃ dir, value = some dir ∧ dir.isEmpty = false ∧
        d = { c with hook := { c.hook with workingDir := some dir } } := by
  unfold mergeWorkingDir
  constructor
  · intro h
    split at h
    · exact .inl ⟨rfl, (Except.ok.inj h).symm⟩
    · next dir =>
      split at h
      · nomatch h
      · next hempty =>
        exact .inr ⟨dir, rfl, Bool.eq_false_iff.2 hempty, (Except.ok.inj h).symm⟩
  · rintro (⟨rfl, rfl⟩ | ⟨dir, rfl, hempty, rfl⟩)
    · rfl
    · simp only [hempty, Bool.false_eq_true, ↓reduceIte]

theorem Usable.mergeTool (h : c.Usable) {value : Option OsText}
    (hmerge : c.mergeTool value = .ok d) : d.Usable := by
  rcases mergeTool_eq_ok_iff.1 hmerge with ⟨-, rfl⟩ | ⟨tool, -, hblank, rfl⟩
  · exact h
  · exact ⟨hblank, h.targets, h.target⟩

theorem Usable.mergeWorkingDir (h : c.Usable) {value : Option OsText}
    (hmerge : c.mergeWorkingDir value = .ok d) : d.Usable := by
  rcases mergeWorkingDir_eq_ok_iff.1 hmerge with ⟨-, rfl⟩ | ⟨dir, -, -, rfl⟩
  · exact h
  · exact ⟨h.tool, h.targets, h.target⟩

end Merge

theorem Usable.mergeEnv (h : c.Usable) (env : Overrides) : (c.mergeEnv env).1.Usable := by
  unfold Config.mergeEnv
  cases htool : c.mergeTool env.tool with
  | error e => exact h
  | ok withTool =>
    have hwithTool := h.mergeTool htool
    dsimp only
    cases hdir : withTool.mergeWorkingDir env.workingDir with
    | error e => exact hwithTool
    | ok merged => exact hwithTool.mergeWorkingDir hdir

end Config

def HookConfig.plan (c : HookConfig) : Plan := ⟨c.targets.map (Step.mk c.tool), c.workingDir⟩

theorem Plan.ofConfig_eq {c : HookConfig} (h : c.targets ≠ []) : Plan.ofConfig c = .ok c.plan := by
  have hsteps : (c.targets.map (Step.mk c.tool)).isEmpty = false := by
    rw [List.isEmpty_map, ← Bool.not_eq_true, List.isEmpty_iff]
    exact h
  rw [ofConfig, ofSteps, hsteps]
  rfl

theorem Config.Usable.plan_steps_ne_nil {c : Config} (h : c.Usable) : c.hook.plan.steps ≠ [] :=
  fun hnone ↦ h.targets (List.map_eq_nil_iff.1 hnone)

end BuildHook
