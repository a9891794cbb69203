import BuildHook.Process.System
import BuildHook.Proofs.Config.Precedence
import BuildHook.Proofs.Host.Path

namespace BuildHook

namespace Host

theorem prepare_of_empty_dir {h : Host} {command : Command}
    (hdir : command.dir = some (.ofString "")) : ∃ fault, h.prepare command = .error fault := by
  have henter : h.enter (some (.ofString "")) = .error .notFound := by
    have hempty : (OsText.ofString "").isEmpty = true := OsText.isEmpty_ofString_iff.2 rfl
    rw [enter, Layout.resolve, if_pos hempty]
    rfl
  simp only [prepare, hdir, henter]
  split
  · exact ⟨_, rfl⟩
  · exact ⟨_, rfl⟩

end Host

namespace Config

def withTool (c : Config) (tool : String) : Config := { c with hook := { c.hook with tool } }

def runIn (c : Config) (dir : OsText) : Config :=
  { c with hook := { c.hook with workingDir := some dir } }

inductive RefusesTool : OsText → ConfigError → Prop
  | notText {value : OsText} (h : value.toString? = none) :
    RefusesTool value (.invalidValue toolVariable value.display)
  | blank {tool : String} (h : Text.isBlank tool = true) :
    RefusesTool (.ofString tool) (.invalidValue toolVariable tool)

section Refused

variable {c d : Config} {e : ConfigError}

theorem mergeTool_eq_error_iff {value : Option OsText} :
    c.mergeTool value = .error e ↔ ∃ v, value = some v ∧ RefusesTool v e := by
  unfold mergeTool
  constructor
  · intro h
    split at h
    · nomatch h
    · next v =>
      refine ⟨v, rfl, ?_⟩
      split at h
      · next hnone =>
        cases h
        exact .notText hnone
      · next tool htool =>
        split at h
        · next hblank =>
          cases h
          rw [← OsText.ofString_of_toString? htool]
          exact .blank hblank
        · nomatch h
  · rintro ⟨_, rfl, hnone | hblank⟩
    · simp only [hnone]
    · simp only [OsText.toString?_ofString, hblank, ↓reduceIte]

theorem mergeWorkingDir_eq_error_iff {value : Option OsText} :
    c.mergeWorkingDir value = .error e ↔
      value = some (.ofString "") ∧ e = .invalidValue workingDirVariable "" := by
  unfold mergeWorkingDir
  constructor
  · intro h
    split at h
    · nomatch h
    · next dir =>
      split at h
      · next hempty =>
        cases h
        exact ⟨congrArg some (OsText.isEmpty_iff_eq.1 hempty), rfl⟩
      · nomatch h
  · rintro ⟨rfl, rfl⟩
    have hempty : (OsText.ofString "").isEmpty = true := OsText.isEmpty_ofString_iff.2 rfl
    simp only [hempty, ↓reduceIte]

theorem mergeEnv_eq_error_iff {env : Overrides} :
    c.mergeEnv env = (d, .error e) ↔
      (∃ v, env.tool = some v ∧ RefusesTool v e ∧ d = c) ∨
        (c.mergeTool env.tool = .ok d ∧ env.workingDir = some (.ofString "") ∧
          e = .invalidValue workingDirVariable "") := by
  rw [mergeEnv]
  cases htool : c.mergeTool env.tool with
  | error refusal =>
    obtain ⟨v, hv, hrefuses⟩ := mergeTool_eq_error_iff.1 htool
    constructor
    · intro h
      cases h
      exact .inl ⟨v, hv, hrefuses, rfl⟩
    · rintro (⟨v', hv', hrefuses', rfl⟩ | ⟨h, -⟩)
      · rw [mergeTool_eq_error_iff.2 ⟨v', hv', hrefuses'⟩] at htool
        cases htool
        rfl
      · cases h
  | ok between =>
    have haccepted : ¬ ∃ v, env.tool = some v ∧ RefusesTool v e ∧ d = c := by
      rintro ⟨v, hv, hrefuses, -⟩
      rw [mergeTool_eq_error_iff.2 ⟨v, hv, hrefuses⟩] at htool
      cases htool
    rw [or_iff_right haccepted, ← mergeWorkingDir_eq_error_iff (c := between), Except.ok.injEq]
    dsimp only
    cases between.mergeWorkingDir env.workingDir with
    | error refusal => simp only [Prod.mk.injEq, Except.error.injEq]
    | ok merged => simp

theorem RefusesTool.isBlank {tool : String} (h : RefusesTool (.ofString tool) e) :
    Text.isBlank tool = true := by
  generalize hvalue : OsText.ofString tool = value at h
  cases h with
  | notText hnone =>
    rw [← hvalue, OsText.toString?_ofString] at hnone
    nomatch hnone
  | blank hblank =>
    rw [OsText.ofString_inj.1 hvalue]
    exact hblank

/-- Whatever is refused, only the tool can have changed, and it has if it was given a value that is
not refused. Then it is the directory that was. -/
theorem mergeEnv_refused {env : Overrides} (h : c.mergeEnv env = (d, .error e)) :
    d.withTool c.hook.tool = c ∧
      (∀ tool, env.tool = some (.ofString tool) → Text.isBlank tool = false →
        d = c.withTool tool ∧ env.workingDir = some (.ofString "") ∧
          e = .invalidValue "EXTBUILD_WORKING_DIR" "") ∧
      ((∀ tool, env.tool = some (.ofString tool) → Text.isBlank tool = true) → d = c) := by
  rcases mergeEnv_eq_error_iff.1 h with ⟨v, hv, hrefuses, rfl⟩ | ⟨htool, hdir, rfl⟩
  · refine ⟨rfl, fun tool htool hvisible ↦ ?_, fun _ ↦ rfl⟩
    obtain rfl : v = .ofString tool := Option.some.inj (hv.symm.trans htool)
    nomatch hvisible.symm.trans hrefuses.isBlank
  · rcases mergeTool_eq_ok_iff.1 htool with ⟨hnone, rfl⟩ | ⟨tool, hsome, hvisible, rfl⟩
    · refine ⟨rfl, fun tool htool ↦ ?_, fun _ ↦ rfl⟩
      nomatch hnone.symm.trans htool
    · refine ⟨rfl, fun tool' htool' _ ↦ ?_, fun hblank ↦ ?_⟩
      · obtain rfl : tool = tool' :=
          OsText.ofString_inj.1 (Option.some.inj (hsome.symm.trans htool'))
        exact ⟨rfl, hdir, rfl⟩
      · nomatch hvisible.symm.trans (hblank tool hsome)

end Refused

theorem mergeEnv_refused_of_empty_dir :
    let env : Overrides := ⟨some (.ofString "ninja"), some (.ofString "")⟩
    let blank : Overrides := ⟨some (.ofString " "), some (.ofString "")⟩
    ∃ d d' e e', default.mergeEnv env = (d, .error e) ∧ default.mergeEnv blank = (d', .error e') ∧
      d = default.withTool "ninja" ∧ e = .invalidValue "EXTBUILD_WORKING_DIR" "" ∧
      d' = default := by
  intro env blank
  have hblank : Text.isBlank " " = true := by decide
  have hvisible : Text.isBlank "ninja" = false := by decide
  have hrefused : default.mergeEnv env =
      (default.withTool "ninja", .error (.invalidValue workingDirVariable "")) :=
    mergeEnv_eq_error_iff.2 (.inr ⟨mergeTool_eq_ok_iff.2 (.inr ⟨_, rfl, hvisible, rfl⟩), rfl, rfl⟩)
  have hrefused' : default.mergeEnv blank = (default, .error (.invalidValue toolVariable " ")) :=
    mergeEnv_eq_error_iff.2 (.inl ⟨_, rfl, .blank hblank, rfl⟩)
  obtain ⟨hd, -, he⟩ := (mergeEnv_refused hrefused).2.1 "ninja" rfl hvisible
  refine ⟨_, _, _, _, hrefused, hrefused', hd, he, ?_⟩
  refine (mergeEnv_refused hrefused').2.2 fun tool htool ↦ ?_
  rw [← OsText.ofString_inj.1 (Option.some.inj htool)]
  exact hblank

/-- The tool was taken before the directory was refused, and it stays. -/
theorem tool_changed_of_empty_dir :
    let env : Overrides := ⟨some (.ofString "ninja"), some (.ofString "")⟩
    (default.mergeEnv env).2 = .error (.invalidValue "EXTBUILD_WORKING_DIR" "") ∧
      (default.mergeEnv env).1.hook.tool = "ninja" ∧ (default.mergeEnv env).1 ≠ default := by
  intro env
  have htool : (default.mergeEnv env).1.hook.tool = "ninja" := rfl
  refine ⟨rfl, htool, fun hsame ↦ ?_⟩
  rw [hsame] at htool
  exact absurd htool (by decide)

section Routes

variable (c : Config) (v : String)

theorem mergeEnv_of_tool :
    c.mergeEnv ⟨some (.ofString v), none⟩ =
      if Text.isBlank v then (c, .error (.invalidValue toolVariable v))
      else (c.withTool v, .ok ()) := by
  cases hv : Text.isBlank v with
  | true => exact mergeEnv_eq_error_iff.2 (.inl ⟨_, rfl, .blank hv, rfl⟩)
  | false =>
    have htool : c.mergeTool (some (.ofString v)) = .ok (c.withTool v) :=
      mergeTool_eq_ok_iff.2 (.inr ⟨v, rfl, hv, rfl⟩)
    exact mergeEnv_eq_ok_iff.2 ⟨c.withTool v, htool, rfl⟩

theorem mergeEnv_of_dir :
    c.mergeEnv ⟨none, some (.ofString v)⟩ =
      if v = "" then (c, .error (.invalidValue workingDirVariable ""))
      else (c.runIn (.ofString v), .ok ()) := by
  by_cases hv : v = ""
  · rw [if_pos hv, hv]
    exact mergeEnv_eq_error_iff.2 (.inr ⟨rfl, rfl, rfl⟩)
  · have hempty : (OsText.ofString v).isEmpty = false := by
      rw [← Bool.not_eq_true, OsText.isEmpty_ofString_iff]
      exact hv
    rw [if_neg hv]
    exact mergeEnv_eq_ok_iff.2 ⟨c, rfl, mergeWorkingDir_eq_ok_iff.2 (.inr ⟨_, rfl, hempty, rfl⟩)⟩

variable {c}

/-- Where the targets are in order, the two routes take the same tools. They take the same
directories as well, but for the empty one: a file can set that, and then no step is ever
started. -/
theorem accepts_on_both_routes (htargets : c.hook.targets ≠ [])
    (htarget : ∀ t ∈ c.hook.targets, Text.isBlank t = false) :
    let byTool := c.mergeEnv ⟨some (.ofString v), none⟩
    let byDir := c.mergeEnv ⟨none, some (.ofString v)⟩
    (byTool.2 = .ok () ↔ (c.withTool v).validate = .ok ()) ∧
      (byTool.2 = .ok () → byTool.1 = c.withTool v) ∧
      (Text.isBlank c.hook.tool = false →
        (byDir.2 = .ok () ↔ v ≠ "") ∧ (byDir.2 = .ok () → byDir.1 = c.runIn (.ofString v)) ∧
        (c.runIn (.ofString v)).validate = .ok () ∧
        ∃ p, Plan.ofConfig (c.runIn (.ofString v)).hook = .ok p ∧
          p.workingDir = some (.ofString v) ∧ (v = "" → ∀ h : Host, ∀ step ∈ p.steps,
            ∃ fault, h.prepare (p.command step) = .error fault)) := by
  intro byTool byDir
  refine ⟨?_, ?_, fun htool ↦ ⟨?_, ?_, ?_, ?_⟩⟩
  · have husable : (c.withTool v).Usable ↔ Text.isBlank v = false :=
      ⟨Usable.tool, fun hv ↦ ⟨hv, htargets, htarget⟩⟩
    rw [validate_eq_ok_iff, husable]
    simp only [byTool, mergeEnv_of_tool]
    cases Text.isBlank v <;> simp
  · simp only [byTool, mergeEnv_of_tool]
    cases Text.isBlank v <;> simp
  · simp only [byDir, mergeEnv_of_dir]
    split
    · next hempty => simp [hempty]
    · next hempty => simp [hempty]
  · simp only [byDir, mergeEnv_of_dir]
    split <;> simp
  · exact validate_eq_ok_iff.2 ⟨htool, htargets, htarget⟩
  · refine ⟨_, Plan.ofConfig_eq htargets, rfl, ?_⟩
    rintro rfl h step -
    exact Host.prepare_of_empty_dir rfl

end Routes

theorem accepts_on_both_routes_of_wide_space :
    let v := "\u2003"
    default.hook.targets ≠ [] ∧ (∀ t ∈ default.hook.targets, Text.isBlank t = false) ∧
      Text.isBlank default.hook.tool = false ∧
      (default.mergeEnv ⟨some (.ofString v), none⟩).2 ≠ .ok () ∧
      (default.withTool v).validate ≠ .ok () ∧
      (default.mergeEnv ⟨none, some (.ofString v)⟩).2 = .ok () ∧
      (default.runIn (.ofString v)).validate = .ok () := by
  intro v
  obtain ⟨htool, -, hdir⟩ :=
    accepts_on_both_routes v usable_default.targets usable_default.target
  obtain ⟨hdir, -, hvalid, -⟩ := hdir usable_default.tool
  have hrefused : (default.mergeEnv ⟨some (.ofString v), none⟩).2 ≠ .ok () := by
    have hblank : Text.isBlank v = true := by decide
    rw [mergeEnv_of_tool, if_pos hblank]
    nofun
  exact ⟨usable_default.targets, usable_default.target, usable_default.tool, hrefused,
    fun h ↦ hrefused (htool.2 h), hdir.2 (by decide), hvalid⟩

/-- The environment is refused the empty directory, and a file is not. -/
theorem empty_dir_on_one_route :
    let c := default.runIn (.ofString "")
    default.validate = .ok () ∧
      (default.mergeEnv ⟨none, some (.ofString "")⟩).2 =
        .error (.invalidValue "EXTBUILD_WORKING_DIR" "") ∧
      c.validate = .ok () ∧ ofText "[hook]\nworking_dir = \"\"" = .ok c := by
  intro c
  have husable : c.Usable := ⟨usable_default.tool, usable_default.targets, usable_default.target⟩
  exact ⟨validate_eq_ok_iff.2 usable_default, rfl, validate_eq_ok_iff.2 husable,
    eq_ok_of_toOption (by decide +kernel)⟩

end Config

end BuildHook
