import BuildHook.Proofs.Config.Setting

namespace BuildHook

namespace Setting

variable {α : Type}

/-- The value is the first that there is: one from outside, what the document sets, the default. -/
def FirstOf (f : Setting α) (outside : Option α) (doc : Option Toml.Value) (a : α) : Prop :=
  match outside with
  | some b => a = b
  | none =>
    match doc.bind f.given with
    | some v => f.written a = some v
    | none => a = f.get .default

def overridable : Setting α → Bool
  | tool | workingDir => true
  | _ => false

end Setting

namespace Config

section Environment

variable {c d : Config}

theorem mergeEnv_eq_ok_iff {env : Overrides} :
    c.mergeEnv env = (d, .ok ()) ↔
      ∃ between, c.mergeTool env.tool = .ok between ∧
        between.mergeWorkingDir env.workingDir = .ok d := by
  rw [mergeEnv]
  cases c.mergeTool env.tool with
  | error e => simp
  | ok between =>
    simp only [Except.ok.injEq, exists_eq_left']
    cases between.mergeWorkingDir env.workingDir with
    | error e => simp
    | ok merged => simp

theorem mergeEnv_unset (c : Config) : c.mergeEnv ⟨none, none⟩ = (c, .ok ()) := rfl

theorem mergeEnv_again {env : Overrides} (h : c.mergeEnv env = (d, .ok ())) :
    d.mergeEnv env = (d, .ok ()) := by
  obtain ⟨between, htool, hdir⟩ := mergeEnv_eq_ok_iff.1 h
  have htool' : d.mergeTool env.tool = .ok d := by
    rw [mergeTool_eq_ok_iff] at htool ⊢
    rcases htool with ⟨hnone, rfl⟩ | ⟨tool, hsome, hblank, rfl⟩
    · exact .inl ⟨hnone, rfl⟩
    · refine .inr ⟨tool, hsome, hblank, ?_⟩
      rcases mergeWorkingDir_eq_ok_iff.1 hdir with ⟨-, rfl⟩ | ⟨dir, -, -, rfl⟩ <;> rfl
  have hdir' : d.mergeWorkingDir env.workingDir = .ok d := by
    rw [mergeWorkingDir_eq_ok_iff] at hdir ⊢
    rcases hdir with ⟨hnone, rfl⟩ | ⟨dir, hsome, hempty, rfl⟩
    · exact .inl ⟨hnone, rfl⟩
    · exact .inr ⟨dir, hsome, hempty, rfl⟩
  exact mergeEnv_eq_ok_iff.2 ⟨d, htool', hdir'⟩

theorem get_of_mergeEnv {α : Type} {f : Setting α} (hf : f.overridable = false) {env : Overrides}
    (h : c.mergeEnv env = (d, .ok ())) : f.get d = f.get c := by
  obtain ⟨between, htool, hdir⟩ := mergeEnv_eq_ok_iff.1 h
  have hbetween : f.get between = f.get c := by
    rcases mergeTool_eq_ok_iff.1 htool with ⟨-, rfl⟩ | ⟨tool, -, -, rfl⟩
    · rfl
    · cases f with
      | tool | workingDir => nomatch hf
      | _ => rfl
  rw [← hbetween]
  rcases mergeWorkingDir_eq_ok_iff.1 hdir with ⟨-, rfl⟩ | ⟨dir, -, -, rfl⟩
  · rfl
  · cases f with
    | tool | workingDir => nomatch hf
    | _ => rfl

end Environment

section Files

variable {files : Files} {path : Option OsText}

theorem firstOf_of_load {α : Type} {f : Setting α} (hf : f.lapses = false) {c : Config}
    (h : (load files path).1 = .ok c) :
    f.FirstOf none ((chosenPath files path).bind files.document?) (f.get c) := by
  cases hpath : chosenPath files path with
  | none =>
    obtain rfl := Except.ok.inj ((load_of_chosenPath_none hpath).symm.trans h)
    exact rfl
  | some chosen =>
    rw [load_of_chosenPath_some hpath] at h
    obtain ⟨doc, hdoc, hc, -⟩ := loadFile_eq_ok_iff.1 h
    rw [Option.bind_some, hdoc]
    unfold Setting.FirstOf
    rw [Option.bind_some]
    dsimp only
    split
    · next v hgiven => exact Setting.written_of_read (Setting.read_of_given hc hgiven)
    · next hgiven =>
      have hget := Setting.get_of_not_given hc hgiven
      rwa [Setting.fallback_eq_iff.2 hf, ite_self] at hget

theorem load_eq_of_read_eq {others : Files} {asked : OsText}
    (h : others.read asked = files.read asked) :
    load others (some asked) = load files (some asked) := by
  have hfile : loadFile others asked = loadFile files asked := by
    rw [loadFile, loadFile, h]
  simp only [load, chosenPath, hfile]

theorem load_of_notFound {asked : OsText} {fault : Fault} (h : files.read asked = .error fault)
    (hkind : fault.kind = .notFound) :
    (load files (some asked)).1 = .error (.config (.notFound asked.display)) := by
  have hpath : chosenPath files (some asked) = some asked := rfl
  rw [load_of_chosenPath_some hpath, loadFile, h]
  dsimp only
  rw [if_pos hkind]

end Files

/-- What the settings are when the environment has been taken over. -/
structure Resolved (env : Overrides) (doc : Option Toml.Value) (loaded c : Config) : Prop where
  tool : ∃ tool : Option String, env.tool = tool.map OsText.ofString ∧
    Setting.tool.FirstOf tool doc c.hook.tool
  workingDir : Setting.workingDir.FirstOf (env.workingDir.map some) doc c.hook.workingDir
  targets : Setting.targets.FirstOf none doc c.hook.targets
  kept : ∀ {α : Type} (f : Setting α), f.overridable = false → f.get c = f.get loaded

theorem resolved_of_mergeEnv {files : Files} {path : Option OsText} {env : Overrides}
    {loaded c : Config} (hload : (load files path).1 = .ok loaded)
    (hmerge : loaded.mergeEnv env = (c, .ok ())) :
    Resolved env ((chosenPath files path).bind files.document?) loaded c := by
  have hkept : c.hook.targets = loaded.hook.targets :=
    get_of_mergeEnv (f := .targets) rfl hmerge
  obtain ⟨between, htool, hdir⟩ := mergeEnv_eq_ok_iff.1 hmerge
  refine ⟨?_, ?_, ?_, fun f hf ↦ get_of_mergeEnv hf hmerge⟩
  · have hsame : c.hook.tool = between.hook.tool := by
      rcases mergeWorkingDir_eq_ok_iff.1 hdir with ⟨-, rfl⟩ | ⟨dir, -, -, rfl⟩ <;> rfl
    rw [hsame]
    rcases mergeTool_eq_ok_iff.1 htool with ⟨hnone, rfl⟩ | ⟨tool, hsome, -, rfl⟩
    · exact ⟨none, hnone, firstOf_of_load (f := .tool) rfl hload⟩
    · exact ⟨some tool, hsome, rfl⟩
  · rcases mergeWorkingDir_eq_ok_iff.1 hdir with ⟨hnone, rfl⟩ | ⟨dir, hsome, -, rfl⟩
    · have hsame : c.hook.workingDir = loaded.hook.workingDir := by
        rcases mergeTool_eq_ok_iff.1 htool with ⟨-, rfl⟩ | ⟨tool, -, -, rfl⟩ <;> rfl
      rw [hnone, hsame]
      exact firstOf_of_load (f := .workingDir) rfl hload
    · rw [hsome]
      exact rfl
  · rw [hkept]
    exact firstOf_of_load (f := .targets) rfl hload

/-- The environment comes before the chosen file, and the file before the defaults. A file that is
asked for is the only one read and must be there; else the usual one is, if there is one. -/
theorem settings_precedence (files : Files) (path : Option OsText) (env : Overrides) :
    let chosen := path.or (if files.isThere defaultPath then some defaultPath else none)
    (∀ loaded c, (load files path).1 = .ok loaded → loaded.mergeEnv env = (c, .ok ()) →
      Resolved env (chosen.bind files.document?) loaded c ∧
      (chosen.bind files.document? = none → chosen = none ∧ loaded = default) ∧
      c.mergeEnv env = (c, .ok ())) ∧
    (∀ asked, path = some asked →
      (∀ others : Files, others.read asked = files.read asked →
        load others path = load files path) ∧
      ∀ fault, files.read asked = .error fault → fault.kind = .notFound →
        (load files path).1 = .error (.config (.notFound asked.display))) ∧
    ∀ c : Config, c.mergeEnv ⟨none, none⟩ = (c, .ok ()) := by
  have hchosen : path.or (if files.isThere defaultPath then some defaultPath else none) =
      chosenPath files path := by
    cases path <;> rfl
  rw [hchosen]
  refine ⟨fun loaded c hload hmerge ↦ ⟨resolved_of_mergeEnv hload hmerge, fun hnone ↦ ?_,
    mergeEnv_again hmerge⟩, ?_, mergeEnv_unset⟩
  · cases hpath : chosenPath files path with
    | none => exact ⟨rfl, Except.ok.inj (hload.symm.trans (load_of_chosenPath_none hpath))⟩
    | some file =>
      rw [load_of_chosenPath_some hpath] at hload
      obtain ⟨doc, hdoc, -⟩ := loadFile_eq_ok_iff.1 hload
      rw [hpath, Option.bind_some, hdoc] at hnone
      nomatch hnone
  · rintro asked rfl
    exact ⟨fun others ↦ load_eq_of_read_eq, fun fault ↦ load_of_notFound⟩

theorem settings_precedence_of_both_variables :
    let files := (settingsOnly "[hook]\ntool = \"gmake\"\ntargets = [\"kernel\"]\n").files
    let env : Overrides := ⟨some (.ofString "ninja"), some ⟨⟨#[0x62, 0xFF]⟩⟩⟩
    let loaded : Config := ⟨⟨"gmake", ["kernel"], none⟩, .default⟩
    let c : Config := ⟨⟨"ninja", ["kernel"], env.workingDir⟩, .default⟩
    (load files none).1 = .ok loaded ∧ loaded.mergeEnv env = (c, .ok ()) ∧
      Resolved env (files.document? defaultPath) loaded c ∧
      c.mergeEnv env = (c, .ok ()) := by
  intro files env loaded c
  have hload : (load files none).1 = .ok loaded := eq_ok_of_toOption (by decide +kernel)
  have hmerge : loaded.mergeEnv env = (c, .ok ()) :=
    mergeEnv_eq_ok_iff.2 ⟨⟨⟨"ninja", ["kernel"], none⟩, .default⟩,
      mergeTool_eq_ok_iff.2 (.inr ⟨"ninja", rfl, by decide, rfl⟩),
      mergeWorkingDir_eq_ok_iff.2 (.inr ⟨_, rfl, by decide, rfl⟩)⟩
  have hthere : files.isThere defaultPath = true := by decide +kernel
  obtain ⟨hresolved, -, hagain⟩ := (settings_precedence files none env).1 loaded c hload hmerge
  rw [hthere] at hresolved
  exact ⟨hload, hmerge, hresolved, hagain⟩

end Config

end BuildHook
