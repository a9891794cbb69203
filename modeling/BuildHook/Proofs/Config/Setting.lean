import BuildHook.Host.Basic
import BuildHook.Proofs.Config.Usable

namespace BuildHook

namespace Toml

/-- What a section holds for one of its fields. An array holds the fields in their order. -/
def Value.entry? (v : Value) (fields : List String) (name : String) : Option Value :=
  match v with
  | table entries => entries.lookup name
  | array items => items[fields.idxOf name]?
  | _ => none

theorem eq_entry?_of_section? {fields : List String} {v : Value} {get : String → Option Value}
    (h : section? fields v = some get) : get = v.entry? fields := by
  funext name
  cases v with
  | table entries =>
    simp only [section?, Option.ite_none_right_eq_some, Option.some.injEq] at h
    rw [← h.2]
    rfl
  | array items | datetime =>
    cases Option.some.inj h
    rfl
  | string s | integer n | float tooLarge | boolean b => nomatch h

theorem string?_eq_some_iff {v : Value} {s : String} : v.string? = some s ↔ v = .string s := by
  cases v <;> simp [Value.string?]

theorem mapM_string?_eq_some_iff {items : List Value} {l : List String} :
    items.mapM Value.string? = some l ↔ items = l.map .string := by
  induction items generalizing l with
  | nil => cases l <;> simp
  | cons v items ih =>
    simp only [List.mapM_cons, Option.bind_eq_bind, Option.bind_eq_some_iff, ih,
      string?_eq_some_iff, Option.pure_def, Option.some.injEq]
    constructor
    · rintro ⟨s, rfl, rest, rfl, rfl⟩
      rfl
    · intro h
      obtain ⟨s, rest, rfl, hs, hrest⟩ := List.map_eq_cons_iff.1 h.symm
      exact ⟨s, hs.symm, rest, hrest.symm, rfl⟩

theorem strings?_eq_some_iff {v : Value} {l : List String} :
    v.strings? = some l ↔ v = .array (l.map .string) := by
  cases v with
  | array items => rw [Value.strings?, mapM_string?_eq_some_iff, Value.array.injEq]
  | _ => simp [Value.strings?]

theorem setting_eq_some_iff {α : Type} {fallback : α} {read : Value → Option α} {o : Option Value}
    {a : α} : setting fallback read o = some a ↔
      (o = none ∧ a = fallback) ∨ ∃ v, o = some v ∧ read v = some a := by
  cases o with
  | none => simp [setting, eq_comm]
  | some v => simp [setting]

end Toml

inductive Setting : Type → Type
  | tool : Setting String
  | targets : Setting (List String)
  | workingDir : Setting (Option OsText)
  | packageName : Setting String
  | version : Setting String
  | description : Setting String
  | url : Setting (Option String)
  | author : Setting (Option String)
  | license : Setting String
  | packages : Setting (List String)

namespace Setting

variable {α : Type}

def get : Setting α → Config → α
  | tool, c => c.hook.tool
  | targets, c => c.hook.targets
  | workingDir, c => c.hook.workingDir
  | packageName, c => c.package.name
  | version, c => c.package.version
  | description, c => c.package.description
  | url, c => c.package.url
  | author, c => c.package.author
  | license, c => c.package.license
  | packages, c => c.package.packages

def ofHook : Setting α → Bool
  | tool | targets | workingDir => true
  | _ => false

def key : Setting α → String
  | tool => "tool"
  | targets => "targets"
  | workingDir => "working_dir"
  | packageName => "name"
  | version => "version"
  | description => "description"
  | url => "url"
  | author => "author"
  | license => "license"
  | packages => "packages"

def section? (f : Setting α) (doc : Toml.Value) : Option Toml.Value :=
  doc.entry? Config.fieldNames (if f.ofHook then "hook" else "package")

def entry? (f : Setting α) (v : Toml.Value) : Option Toml.Value :=
  v.entry? (if f.ofHook then HookConfig.fieldNames else Package.fieldNames) f.key

def given (f : Setting α) (doc : Toml.Value) : Option Toml.Value := (f.section? doc).bind f.entry?

/-- How a document writes one of its values; a path that is no text cannot be written. -/
def written : Setting α → α → Option Toml.Value
  | tool, s | packageName, s | version, s | description, s | license, s => some (.string s)
  | targets, l | packages, l => some (.array (l.map .string))
  | workingDir, dir => dir.bind fun t ↦ t.toString?.map .string
  | url, s | author, s => s.map .string

def read : Setting α → Toml.Value → Option α
  | tool | packageName | version | description | license => Toml.Value.string?
  | targets | packages => Toml.Value.strings?
  | workingDir => fun v ↦ v.string?.map fun s ↦ some (OsText.ofString s)
  | url | author => fun v ↦ v.string?.map some

/-- Whether a section that does not set it takes it away. -/
def lapses : Setting α → Bool
  | url | author => true
  | _ => false

def fallback : Setting α → α
  | url | author => none
  | f => f.get .default

theorem ext_get {c d : Config} (h : ∀ {α : Type} (f : Setting α), f.get c = f.get d) : c = d := by
  obtain ⟨⟨_, _, _⟩, ⟨_, _, _, _, _, _, _⟩⟩ := c
  obtain ⟨⟨_, _, _⟩, ⟨_, _, _, _, _, _, _⟩⟩ := d
  obtain rfl := h tool
  obtain rfl := h targets
  obtain rfl := h workingDir
  obtain rfl := h packageName
  obtain rfl := h version
  obtain rfl := h description
  obtain rfl := h url
  obtain rfl := h author
  obtain rfl := h license
  obtain rfl := h packages
  rfl

theorem get_eq_of_hook {f : Setting α} (hf : f.ofHook = true) {c d : Config}
    (h : c.hook = d.hook) : f.get c = f.get d := by
  cases f with
  | tool | targets | workingDir => rw [get, get, h]
  | _ => nomatch hf

theorem get_eq_of_package {f : Setting α} (hf : f.ofHook = false) {c d : Config}
    (h : c.package = d.package) : f.get c = f.get d := by
  cases f with
  | tool | targets | workingDir => nomatch hf
  | _ => rw [get, get, h]

theorem fallback_eq_iff {f : Setting α} : f.fallback = f.get .default ↔ f.lapses = false := by
  cases f with
  | url | author => exact iff_of_false nofun nofun
  | _ => exact iff_of_true rfl rfl

theorem written_of_read {f : Setting α} {v : Toml.Value} {a : α} (h : f.read v = some a) :
    f.written a = some v := by
  cases f with
  | tool | packageName | version | description | license =>
    rw [Toml.string?_eq_some_iff.1 h]
    rfl
  | targets | packages =>
    rw [Toml.strings?_eq_some_iff.1 h]
    rfl
  | workingDir =>
    obtain ⟨s, hs, rfl⟩ := Option.map_eq_some_iff.1 h
    rw [Toml.string?_eq_some_iff.1 hs, written, Option.bind_some, OsText.toString?_ofString]
    rfl
  | url | author =>
    obtain ⟨s, hs, rfl⟩ := Option.map_eq_some_iff.1 h
    rw [Toml.string?_eq_some_iff.1 hs]
    rfl

section Reading

variable {f : Setting α} {c : Config} {v : Toml.Value}

theorem setting_of_hook (hf : f.ofHook = true) (h : HookConfig.ofToml? v = some c.hook) :
    Toml.setting f.fallback f.read (f.entry? v) = some (f.get c) := by
  simp only [HookConfig.ofToml?, Option.bind_eq_bind, Option.bind_eq_some_iff, Option.pure_def,
    Option.some.injEq] at h
  obtain ⟨entry, hentry, tool, htool, targets, htargets, dir, hdir, hc⟩ := h
  obtain rfl := Toml.eq_entry?_of_section? hentry
  cases f with
  | tool | targets | workingDir =>
    rw [get, ← hc]
    assumption
  | _ => nomatch hf

theorem setting_of_package (hf : f.ofHook = false) (h : Package.ofToml? v = some c.package) :
    Toml.setting f.fallback f.read (f.entry? v) = some (f.get c) := by
  simp only [Package.ofToml?, Option.bind_eq_bind, Option.bind_eq_some_iff, Option.pure_def,
    Option.some.injEq] at h
  obtain ⟨entry, hentry, name, hname, version, hversion, description, hdescription, url, hurl,
    author, hauthor, license, hlicense, packages, hpackages, hc⟩ := h
  obtain rfl := Toml.eq_entry?_of_section? hentry
  cases f with
  | tool | targets | workingDir => nomatch hf
  | _ =>
    rw [get, ← hc]
    assumption

theorem get_of_ofToml? (f : Setting α) {doc : Toml.Value} (h : Config.ofToml? doc = some c) :
    (f.section? doc = none ∧ f.get c = f.get .default) ∨
      ∃ v, f.section? doc = some v ∧
        Toml.setting f.fallback f.read (f.entry? v) = some (f.get c) := by
  simp only [Config.ofToml?, Option.bind_eq_bind, Option.bind_eq_some_iff, Option.pure_def,
    Option.some.injEq] at h
  obtain ⟨entry, hentry, hook, hhook, package, hpackage, rfl⟩ := h
  obtain rfl := Toml.eq_entry?_of_section? hentry
  rw [Toml.setting_eq_some_iff] at hhook hpackage
  cases hf : f.ofHook with
  | true =>
    have hsection : f.section? doc = doc.entry? Config.fieldNames "hook" := by
      rw [section?, hf, if_pos rfl]
    rw [hsection]
    rcases hhook with ⟨hnone, rfl⟩ | ⟨v, hv, hread⟩
    · exact .inl ⟨hnone, get_eq_of_hook hf rfl⟩
    · exact .inr ⟨v, hv, setting_of_hook hf hread⟩
  | false =>
    have hsection : f.section? doc = doc.entry? Config.fieldNames "package" := by
      rw [section?, hf]
      rfl
    rw [hsection]
    rcases hpackage with ⟨hnone, rfl⟩ | ⟨v, hv, hread⟩
    · exact .inl ⟨hnone, get_eq_of_package hf rfl⟩
    · exact .inr ⟨v, hv, setting_of_package hf hread⟩

theorem read_of_given {doc : Toml.Value} (h : Config.ofToml? doc = some c)
    (hv : f.given doc = some v) : f.read v = some (f.get c) := by
  obtain ⟨sec, hsec, hentry⟩ := Option.bind_eq_some_iff.1 hv
  rcases f.get_of_ofToml? h with ⟨hnone, -⟩ | ⟨sec', hsec', hsetting⟩
  · nomatch hnone.symm.trans hsec
  · obtain rfl : sec = sec' := Option.some.inj (hsec.symm.trans hsec')
    rwa [hentry] at hsetting

theorem get_of_not_given {doc : Toml.Value} (h : Config.ofToml? doc = some c)
    (hnone : f.given doc = none) :
    f.get c = if (f.section? doc).isSome then f.fallback else f.get .default := by
  rcases f.get_of_ofToml? h with ⟨hsec, hget⟩ | ⟨sec, hsec, hsetting⟩
  · rw [hsec]
    exact hget
  · have hentry : f.entry? sec = none := by rwa [given, hsec] at hnone
    rw [hentry] at hsetting
    rw [hsec]
    exact (Option.some.inj hsetting).symm

theorem eq_of_given_eq {doc doc' : Toml.Value} {d : Config} (h : Config.ofToml? doc = some c)
    (h' : Config.ofToml? doc' = some d)
    (hgiven : ∀ {α : Type} (f : Setting α), f.given doc = f.given doc')
    (hsection : ∀ {α : Type} (f : Setting α),
      (f.section? doc).isSome = (f.section? doc').isSome) : c = d := by
  refine ext_get fun f ↦ ?_
  cases hf : f.given doc with
  | none =>
    rw [get_of_not_given h hf, get_of_not_given h' (hgiven f ▸ hf), hsection]
  | some v =>
    have hread := read_of_given h hf
    have hread' := read_of_given h' (hgiven f ▸ hf)
    exact Option.some.inj (hread.symm.trans hread')

end Reading

end Setting

def Files.document? (files : Files) (path : OsText) : Option Toml.Value :=
  match files.read path with
  | .ok content => content.toString?.bind Toml.parse?
  | .error _ => none

namespace Config

variable {files : Files} {path : OsText} {c : Config}

theorem loadFile_eq_ok_iff :
    loadFile files path = .ok c ↔
      ∃ doc, files.document? path = some doc ∧ ofToml? doc = some c ∧ c.Usable := by
  rw [loadFile, Files.document?]
  cases files.read path with
  | error fault =>
    dsimp only
    split <;> exact iff_of_false nofun (fun ⟨_, hdoc, _⟩ ↦ nomatch hdoc)
  | ok content =>
    dsimp only
    cases content.toString? with
    | none => exact iff_of_false nofun (fun ⟨_, hdoc, _⟩ ↦ nomatch hdoc)
    | some s =>
      rw [Option.bind_some, ← ofText_eq_ok_iff]
      dsimp only
      cases ofText s with
      | error e => exact iff_of_false nofun nofun
      | ok read =>
        have hread : Except.mapError Error.config (.ok read) = .ok read := rfl
        simp only [hread, Except.ok.injEq]

/-- What is loaded of each setting. The address and the author alone can be lost: a section that is
there but does not set them leaves nothing of their defaults. -/
theorem loadFile_settings (h : loadFile files path = .ok c) :
    ∃ doc, files.document? path = some doc ∧ ∀ {α : Type} (f : Setting α),
      (∀ v, f.given doc = some v → f.written (f.get c) = some v) ∧
      (f.given doc = none →
        (f.get c = f.get .default ↔ ¬ (f.lapses = true ∧ (f.section? doc).isSome)) ∧
        (f.lapses = true → (f.section? doc).isSome → f.get c = f.fallback)) := by
  obtain ⟨doc, hdoc, hc, -⟩ := loadFile_eq_ok_iff.1 h
  refine ⟨doc, hdoc, fun f ↦ ⟨fun v hv ↦ ?_, fun hnone ↦ ?_⟩⟩
  · exact Setting.written_of_read (Setting.read_of_given hc hv)
  · have hget := Setting.get_of_not_given hc hnone
    cases hsection : (f.section? doc).isSome with
    | false =>
      rw [hsection] at hget
      exact ⟨iff_of_true hget (fun h ↦ nomatch h.2), nofun⟩
    | true =>
      rw [hsection, if_pos rfl] at hget
      refine ⟨?_, fun _ _ ↦ hget⟩
      rw [hget, Setting.fallback_eq_iff, and_iff_left rfl, Bool.not_eq_true]

theorem eq_ok_of_toOption {ε : Type} {r : Except ε Config} (h : r.toOption = some c) :
    r = .ok c := by
  cases r with
  | error e => nomatch h
  | ok read => rw [Option.some.inj h]

def settingsOnly (text : String) : Host :=
  ⟨⟨[([defaultPath], .file (.ofString text) false)]⟩, [], []⟩

theorem loadFile_settings_of_partial_sections :
    let files := (settingsOnly "[hook]\ntool = \"gmake\"\n[package]\nurl = \"here\"\n").files
    let c : Config := ⟨{ HookConfig.default with tool := "gmake" },
      { Package.default with url := some "here", author := none }⟩
    loadFile files defaultPath = .ok c ∧
      Setting.url.written (Setting.url.get c) = some (.string "here") ∧
      Setting.targets.get c = Setting.targets.get .default ∧
      Setting.author.get c ≠ Setting.author.get .default := by
  intro files c
  have hload : loadFile files defaultPath = .ok c := eq_ok_of_toOption (by decide +kernel)
  obtain ⟨doc, hdoc, hsettings⟩ := loadFile_settings hload
  have hurl : ((files.document? defaultPath).bind Setting.url.given).bind Toml.Value.string? =
      some "here" := by decide +kernel
  have htargets : ((files.document? defaultPath).bind Setting.targets.given).isNone := by
    decide +kernel
  have hauthor : ((files.document? defaultPath).bind Setting.author.given).isNone := by
    decide +kernel
  have hsection : ((files.document? defaultPath).bind Setting.author.section?).isSome := by
    decide +kernel
  rw [hdoc, Option.bind_some] at hurl htargets hauthor hsection
  rw [Option.isNone_iff_eq_none] at htargets hauthor
  obtain ⟨v, hv, hread⟩ := Option.bind_eq_some_iff.1 hurl
  obtain rfl := Toml.string?_eq_some_iff.1 hread
  refine ⟨hload, (hsettings .url).1 _ hv, ?_, ?_⟩
  · exact ((hsettings .targets).2 htargets).1.2 nofun
  · exact fun h ↦ ((hsettings .author).2 hauthor).1.1 h ⟨rfl, hsection⟩

/-- A section that sets only the name leaves no address, although the default has one. -/
theorem url_lost :
    let files := (settingsOnly "[package]\nname = \"stencils\"\n").files
    ∃ doc c, files.document? defaultPath = some doc ∧ loadFile files defaultPath = .ok c ∧
      Setting.url.given doc = none ∧ c.package.url = none ∧
      default.package.url = some "https://01.org/yask" := by
  intro files
  have hdoc : (files.document? defaultPath).isSome := by decide +kernel
  have hurl : ((files.document? defaultPath).bind Setting.url.given).isNone := by decide +kernel
  obtain ⟨doc, hdoc⟩ := Option.isSome_iff_exists.1 hdoc
  rw [hdoc, Option.bind_some, Option.isNone_iff_eq_none] at hurl
  let c : Config :=
    ⟨.default, { Package.default with name := "stencils", url := none, author := none }⟩
  have hload : loadFile files defaultPath = .ok c := eq_ok_of_toOption (by decide +kernel)
  exact ⟨doc, c, hdoc, hload, hurl, rfl, rfl⟩

end Config

end BuildHook
