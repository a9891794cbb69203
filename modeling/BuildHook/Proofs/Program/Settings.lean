import BuildHook.Program.Basic
import BuildHook.Proofs.Config.Usable

namespace BuildHook

theorem Config.load_error {files : Files} {path : Option OsText} {e : Error}
    (h : (load files path).1 = .error e) :
    (∃ fault file, e = .system fault file) ∨ ∃ wrong, e = .config wrong := by
  rcases load_cases files path with hload | ⟨chosen, hload⟩
  · nomatch hload.symm.trans h
  · rw [hload] at h
    rcases loadFile_cases files chosen with ⟨fault, hfile⟩ | ⟨wrong, hfile⟩ | ⟨_, _, -, hfile⟩
    · exact .inl ⟨fault, some chosen, Except.error.inj (h.symm.trans hfile)⟩
    · exact .inr ⟨wrong, Except.error.inj (h.symm.trans hfile)⟩
    · nomatch hfile.symm.trans h

namespace Surroundings

variable {σ : Type}

/-- Settings are loaded and merged with the environment, and these are what comes of it. -/
def Configured (s : Surroundings σ) (o : Options) (c : Config) : Prop :=
  ∃ loaded, (Config.load s.files o.config).1 = .ok loaded ∧
    loaded.mergeEnv s.overrides = (c, .ok ())

variable {s : Surroundings σ} {o : Options} {c : Config}

/-- Of the options, only the path of the settings matters to them. -/
theorem configured_iff {o' : Options} (h : o'.config = o.config) :
    s.Configured o' c ↔ s.Configured o c := by
  rw [Configured, Configured, h]

theorem usable_of_configured (h : s.Configured o c) : c.Usable := by
  obtain ⟨loaded, hload, hmerge⟩ := h
  have husable := (Config.usable_of_load hload).mergeEnv s.overrides
  rwa [hmerge] at husable

theorem settings_of_load {e : Error} (h : (Config.load s.files o.config).1 = .error e) :
    (s.settings o).1 = .error e := by
  rw [settings]
  generalize Config.load s.files o.config = read at h ⊢
  obtain ⟨result, logs⟩ := read
  subst h
  rfl

theorem settings_of_mergeEnv {loaded : Config} {result : Except ConfigError Unit}
    (hload : (Config.load s.files o.config).1 = .ok loaded)
    (hmerge : loaded.mergeEnv s.overrides = (c, result)) :
    (s.settings o).1 = (result.map fun _ ↦ c).mapError .config := by
  rw [settings]
  generalize Config.load s.files o.config = read at hload ⊢
  obtain ⟨_, logs⟩ := read
  subst hload
  simp only [hmerge]
  cases result <;> rfl

theorem settings_of_configured (h : s.Configured o c) : (s.settings o).1 = .ok c := by
  obtain ⟨loaded, hload, hmerge⟩ := h
  exact settings_of_mergeEnv hload hmerge

theorem configured_unique {d : Config} (hc : s.Configured o c) (hd : s.Configured o d) : d = c := by
  have hsettings := settings_of_configured hc
  rw [settings_of_configured hd] at hsettings
  exact Except.ok.inj hsettings

theorem settings_cases (s : Surroundings σ) (o : Options) :
    (∃ c, s.Configured o c) ∨ (∃ fault file, (s.settings o).1 = .error (.system fault file)) ∨
      ∃ wrong, (s.settings o).1 = .error (.config wrong) := by
  cases hload : (Config.load s.files o.config).1 with
  | error e =>
    right
    rcases Config.load_error hload with ⟨fault, file, rfl⟩ | ⟨wrong, rfl⟩
    · exact .inl ⟨fault, file, settings_of_load hload⟩
    · exact .inr ⟨wrong, settings_of_load hload⟩
  | ok loaded =>
    cases hmerge : loaded.mergeEnv s.overrides with
    | mk c result =>
      cases result with
      | ok => exact .inl ⟨c, loaded, hload, hmerge⟩
      | error wrong => exact .inr (.inr ⟨wrong, settings_of_mergeEnv hload hmerge⟩)

theorem settings_of_not_configured (h : ∀ c, ¬ s.Configured o c) :
    ∃ e, (s.settings o).1 = .error e ∧ e.isStepFailure = false := by
  rcases s.settings_cases o with ⟨c, hc⟩ | ⟨fault, file, hsettings⟩ | ⟨wrong, hsettings⟩
  · exact absurd hc (h c)
  · exact ⟨_, hsettings, rfl⟩
  · exact ⟨_, hsettings, rfl⟩

section Perform

variable {r : Request} (world : World σ)

theorem perform_eq_of_error {e : Error} (h : (s.settings r.options).1 = .error e) :
    s.perform r world =
      ⟨(greeting :: (s.settings r.options).2).map Notice.log ++ [.report (.work e)], none,
        .abort (.work e), world⟩ := by
  rw [perform]
  generalize s.settings r.options = read at h ⊢
  obtain ⟨result, logs⟩ := read
  subst h
  simp only [List.append_nil]
  rfl

theorem perform_of_error {e : Error} (h : (s.settings r.options).1 = .error e) :
    (s.perform r world).conclusion = .abort (.work e) ∧ (s.perform r world).world = world := by
  rw [perform_eq_of_error world h]
  exact ⟨rfl, rfl⟩

theorem perform_eq_of_configured (h : s.Configured r.options c) :
    s.perform r world =
      ⟨(greeting :: (s.settings r.options).2).map Notice.log ++ (s.work r c world).2.2 ++
          (conclude r.options.json (s.work r c world).1).2.notices,
        (conclude r.options.json (s.work r c world).1).1,
        (conclude r.options.json (s.work r c world).1).2, (s.work r c world).2.1⟩ := by
  have hsettings := settings_of_configured h
  rw [perform]
  generalize s.settings r.options = read at hsettings ⊢
  obtain ⟨result, logs⟩ := read
  subst hsettings
  rfl

theorem perform_of_configured (h : s.Configured r.options c) :
    (s.perform r world).conclusion = (conclude r.options.json (s.work r c world).1).2 ∧
      (s.perform r world).world = (s.work r c world).2.1 := by
  rw [perform_eq_of_configured world h]
  exact ⟨rfl, rfl⟩

end Perform

end Surroundings

end BuildHook
