import BuildHook.Proofs.Host.Path

namespace BuildHook

namespace Host

variable {h : Host} {path : OsText}

theorem isAbsolute_pathOf (place : Place) : (pathOf place).isAbsolute = true := by
  have hkept (acc : OsText) (hacc : acc.isAbsolute = true) (names : Place) :
      (names.foldl (fun path name ↦ path ++ .ofString "/" ++ name) acc).isAbsolute = true := by
    induction names generalizing acc with
    | nil => exact hacc
    | cons name rest ih =>
      refine ih _ (OsText.isAbsolute_iff.2 ?_)
      rw [OsText.isAbsolute_iff] at hacc
      simp [hacc]
  cases place with
  | nil => decide
  | cons name rest =>
    have hempty : (OsText.ofString "").bytes = [] := by decide
    refine hkept _ (OsText.isAbsolute_iff.2 ?_) rest
    simp [hempty]

/-- What a path that was found leads to. Where there is none, there is no program. -/
def LeadsTo (h : Host) (path : Option OsText) (program : Except Fault Place) : Prop :=
  match path with
  | some p => ∃ place, h.runnable h.start p = .ok place ∧ program = .ok place
  | none => ∀ place, program ≠ .ok place

def firstRunnable (h : Host) (paths : List OsText) : Option OsText :=
  paths.find? fun p ↦ !p.hasNul && (h.runnable h.start p).isOk

theorem which_eq (name : String) : h.which name = h.firstRunnable (h.candidates name) := rfl

theorem firstRunnable_cons_of_ok {place : Place} (paths : List OsText) (hnul : path.hasNul = false)
    (hrun : h.runnable h.start path = .ok place) : h.firstRunnable (path :: paths) = some path := by
  rw [firstRunnable, List.find?_cons_of_pos]
  simp [hnul, hrun, Except.isOk, Except.toBool]

theorem firstRunnable_cons_of_error {fault : Fault} (paths : List OsText)
    (hrun : h.runnable h.start path = .error fault) :
    h.firstRunnable (path :: paths) = h.firstRunnable paths := by
  rw [firstRunnable, List.find?_cons_of_neg]
  · rfl
  · simp [hrun, Except.isOk, Except.toBool]

theorem firstRunnable_eq_none {paths : List OsText}
    (hpaths : ∀ p ∈ paths, p.hasNul = true ∨ ∀ place, h.runnable h.start p ≠ .ok place) :
    h.firstRunnable paths = none := by
  rw [firstRunnable, List.find?_eq_none]
  intro p hp
  rcases hpaths p hp with hnul | hnowhere
  · simp [hnul]
  · cases hrun : h.runnable h.start p with
    | ok place => exact absurd hrun (hnowhere place)
    | error fault => simp [Except.isOk, Except.toBool]

theorem leadsTo_of_forall_eq {l : List OsText} (hl : ∀ p ∈ l, p = path) (hne : l ≠ [])
    (hnul : path.hasNul = false) :
    h.LeadsTo (h.firstRunnable l) (h.runnable h.start path) := by
  obtain ⟨p, rest, rfl⟩ := List.exists_cons_of_ne_nil hne
  obtain rfl := hl p List.mem_cons_self
  cases hrun : h.runnable h.start p with
  | ok place =>
    rw [firstRunnable_cons_of_ok rest hnul hrun]
    exact ⟨place, hrun, rfl⟩
  | error fault =>
    have hnone : h.firstRunnable (p :: rest) = none := by
      refine firstRunnable_eq_none fun q hq ↦ .inr ?_
      rw [hl q hq, hrun]
      simp
    rw [hnone]
    exact nofun

theorem leadsTo_search {name : OsText} {folders : List OsText} (last : Fault)
    (hnul : ∀ folder ∈ folders, (folder.join name).hasNul = false)
    (hfault : ∀ folder ∈ folders, ∀ fault, h.runnable h.start (folder.join name) = .error fault →
      fault = .permissionDenied ∨ fault = .notFound ∨ fault = .notADirectory) :
    h.LeadsTo (h.firstRunnable (folders.map fun folder ↦ folder.join name))
      (h.search h.start name last folders) := by
  induction folders generalizing last with
  | nil => exact nofun
  | cons folder rest ih =>
    obtain ⟨hfirst, hrest⟩ := List.forall_mem_cons.1 hnul
    obtain ⟨hfault, hfaults⟩ := List.forall_mem_cons.1 hfault
    rw [search, List.map_cons]
    cases hrun : h.runnable h.start (folder.join name) with
    | ok place =>
      rw [firstRunnable_cons_of_ok _ hfirst hrun]
      exact ⟨place, hrun, rfl⟩
    | error fault =>
      rw [firstRunnable_cons_of_error _ hrun]
      dsimp only
      split
      · exact ih _ hrest hfaults
      · next hdenied =>
        rw [if_pos ((hfault fault hrun).resolve_left hdenied)]
        exact ih _ hrest hfaults

section Candidates

variable {name : String}

theorem components_of_not_hasSlash (h : path.hasSlash = false) :
    (components path).length ≤ 1 := by
  rw [components, OsText.parts_of_not_hasSlash h, OsText.isAbsolute_of_not_hasSlash h]
  by_cases hdot : path = .dot
  · rw [hdot]
    decide
  · have hhead : ¬ [path].head? = some OsText.dot := fun h ↦ hdot (Option.some.inj h)
    rw [if_neg hhead]
    exact List.length_filter_le _ _

theorem length_components_of_relative {last : OsText} (hrelative : path.isAbsolute = false)
    (hslash : path.hasSlash = true) (hlast : path.parts.getLast? = some last)
    (hname : (!last.isEmpty && last ≠ .dot) = true) : 1 < (components path).length := by
  obtain ⟨first, rest, hparts, hfirst, hrest⟩ := OsText.exists_parts_of_hasSlash hrelative hslash
  have hmem : last ∈ rest.filter fun p ↦ !p.isEmpty && p ≠ .dot := by
    rw [hparts, List.getLast?_cons_of_ne_nil hrest] at hlast
    exact List.mem_filter.2 ⟨List.mem_of_getLast? hlast, hname⟩
  have hlength := List.length_pos_of_mem hmem
  rw [components, hrelative, hparts, List.filter_cons]
  generalize (rest.filter fun p ↦ !p.isEmpty && p ≠ .dot) = kept at hlength ⊢
  by_cases hdot : first = .dot
  · simp [hdot]
    omega
  · simp [hdot, hfirst]
    omega

theorem anchored_of_relative (hrelative : path.isAbsolute = false) :
    h.anchored path = path.named.foldl OsText.join (pathOf h.start) := by
  have hnamed : (components path).filter (· ≠ .dot) = path.named := by
    have hkept : path.named.filter (· ≠ .dot) = path.named := by
      rw [List.filter_eq_self]
      intro n hn
      have hname := (List.mem_filter.1 hn).2
      exact (Bool.and_eq_true_iff.1 hname).2
    have hhere : (if path.parts.head? = some OsText.dot then [OsText.dot] else []).filter
        (· ≠ .dot) = [] := by
      split <;> simp
    rw [components, hrelative]
    simp only [Bool.false_eq_true, ↓reduceIte, List.nil_append]
    rw [List.filter_append, hhere, List.nil_append]
    exact hkept
  rw [anchored, hrelative, hnamed]
  rfl

theorem hasSlash_of_mem_named {n : OsText} (h : n ∈ path.named) : n.hasSlash = false :=
  OsText.hasSlash_of_mem_parts (List.mem_filter.1 h).1

theorem hasNul_anchored (hstart : (pathOf h.start).hasNul = false) :
    (h.anchored path).hasNul = path.hasNul := by
  cases hpath : path.isAbsolute with
  | true => rw [anchored, hpath, if_pos rfl]
  | false =>
    rw [anchored_of_relative hpath, OsText.hasNul_foldl_join fun n ↦ hasSlash_of_mem_named, hstart,
      Bool.false_or, Bool.eq_iff_iff, List.any_eq_true, OsText.hasNul_iff,
      OsText.mem_bytes_iff_of_ne_slash (by decide)]
    constructor
    · rintro ⟨n, hn, hnul⟩
      exact ⟨n, (List.mem_filter.1 hn).1, OsText.hasNul_iff.1 hnul⟩
    · rintro ⟨part, hpart, hnul⟩
      -- neither nothing nor a dot holds a NUL
      have hname : (!part.isEmpty && part ≠ .dot) = true := by
        rw [Bool.and_eq_true_iff, Bool.not_eq_true', decide_eq_true_eq]
        refine ⟨?_, ?_⟩
        · rw [← Bool.not_eq_true, OsText.isEmpty_iff]
          exact List.ne_nil_of_mem hnul
        · rintro rfl
          exact absurd hnul (by decide)
      exact ⟨part, List.mem_filter.2 ⟨hpart, hname⟩, OsText.hasNul_iff.2 hnul⟩

end Candidates

section Runnable

theorem fault_of_runnable {dir : Place} (hparts : ∀ p ∈ path.parts, p.octets.size ≤ Layout.maxName)
    (hsize : path.octets.size < Layout.maxPath) {fault : Fault}
    (hrun : h.runnable dir path = .error fault) :
    fault = .permissionDenied ∨ fault = .notFound ∨ fault = .notADirectory := by
  rw [runnable, Layout.resolve, if_neg (Nat.not_le.2 hsize)] at hrun
  split at hrun
  · cases hrun
    exact .inr (.inl rfl)
  · cases hwalk : h.layout.walk (if path.isAbsolute then [] else dir) path.parts with
    | error missing =>
      rw [hwalk] at hrun
      cases hrun
      exact .inr (Layout.fault_of_walk hparts hwalk)
    | ok place =>
      rw [hwalk] at hrun
      dsimp only [bind, Except.bind] at hrun
      split at hrun
      · cases hrun
      · exact .inl (Except.error.inj hrun).symm

theorem runnable_of_isAbsolute (hpath : path.isAbsolute = true) (dir dir' : Place) :
    h.runnable dir path = h.runnable dir' path := by
  rw [runnable, runnable, Layout.resolve_of_isAbsolute hpath dir dir']

theorem runnable_join_ne_ok {dir : Place} {folder name : OsText} (hname : name.hasSlash = false)
    (hlong : Layout.maxName < name.octets.size)
    (hsize : (folder.join name).octets.size < Layout.maxPath) (place : Place) :
    h.runnable dir (folder.join name) ≠ .ok place := by
  have hrelative := OsText.isAbsolute_of_not_hasSlash hname
  have hresolve (p : Place) : h.layout.resolve dir (folder.join name) ≠ .ok p := by
    cases hfolder : folder.isEmpty with
    | true =>
      have hjoin : folder.join name = name := by rw [OsText.join, if_pos (.inr hfolder)]
      have hne : name.isEmpty = false := by
        rw [OsText.isEmpty, beq_eq_false_iff_ne]
        exact Nat.ne_of_gt (Nat.zero_lt_of_lt hlong)
      rw [hjoin] at hsize ⊢
      rw [Layout.resolve_eq_walk hrelative hne hsize, OsText.parts_of_not_hasSlash hname]
      exact Layout.walk_name_ne_ok hlong p
    | false =>
      rw [Layout.resolve_join hrelative hfolder hsize, OsText.parts_of_not_hasSlash hname]
      cases h.layout.resolve dir folder with
      | error fault => exact fun h ↦ by cases h
      | ok q => exact Layout.walk_name_ne_ok hlong p
  rw [runnable]
  cases hresolved : h.layout.resolve dir (folder.join name) with
  | error fault => exact fun h ↦ by cases h
  | ok p => exact absurd hresolved (hresolve p)

theorem search_eq_of_forall_isAbsolute {name : OsText} (hname : name.hasSlash = false)
    {folders : List OsText} (hfolders : ∀ folder ∈ folders, folder.isAbsolute = true)
    (dir dir' : Place) (last : Fault) :
    h.search dir name last folders = h.search dir' name last folders := by
  induction folders generalizing last with
  | nil => rfl
  | cons folder rest ih =>
    obtain ⟨hfolder, hrest⟩ := List.forall_mem_cons.1 hfolders
    have hjoin := OsText.isAbsolute_join (OsText.isAbsolute_of_not_hasSlash hname)
      (OsText.isEmpty_of_isAbsolute hfolder)
    rw [search, search, runnable_of_isAbsolute (hjoin.trans hfolder) dir dir']
    simp only [ih hrest]

end Runnable

/-- A host as hosts are: the folder that the program started in has a path that leads there, and the
environment holds no NUL. -/
structure Sound (h : Host) : Prop where
  start : h.layout.resolve [] (pathOf h.start) = .ok h.start
  start_hasNul : (pathOf h.start).hasNul = false
  searchPath : h.searchPath ≠ []
  searchPath_hasNul : ∀ folder ∈ h.searchPath, folder.hasNul = false

/-- How a program can be named so that it does not matter whether it is looked for from the folder
that the program started in or from `dir`, and so that no path is too long. -/
inductive Settled (h : Host) (dir : Place) (path : OsText) : Prop
  | absolute : path.isAbsolute = true → Settled h dir path
  | name : path.hasSlash = false →
      (dir = h.start ∨ ∀ folder ∈ h.searchPath, folder.isAbsolute = true) →
      (∀ folder ∈ h.searchPath, (∀ part ∈ folder.parts, part.octets.size ≤ Layout.maxName) ∧
        (folder.join path).octets.size < Layout.maxPath) → Settled h dir path
  /-- A path that ends in a name, not in a slash or a dot. -/
  | relative {last : OsText} : path.isAbsolute = false → path.hasSlash = true → dir = h.start →
      path.parts.getLast? = some last → (!last.isEmpty && last ≠ .dot) = true →
      path.octets.size < Layout.maxPath → (h.anchored path).octets.size < Layout.maxPath →
      Settled h dir path

theorem runnable_anchored (hh : h.Sound) {last : OsText} (hrelative : path.isAbsolute = false)
    (hne : path.isEmpty = false) (hlast : path.parts.getLast? = some last)
    (hname : (!last.isEmpty && last ≠ .dot) = true) (hsize : path.octets.size < Layout.maxPath)
    (hsize' : (h.anchored path).octets.size < Layout.maxPath) :
    h.runnable h.start (h.anchored path) = h.runnable h.start path := by
  rw [anchored_of_relative hrelative] at hsize' ⊢
  have hroot := OsText.isEmpty_of_isAbsolute (isAbsolute_pathOf h.start)
  have hstart : h.layout.resolve h.start (pathOf h.start) = .ok h.start := by
    rw [Layout.resolve_of_isAbsolute (isAbsolute_pathOf h.start) h.start [], hh.start]
  rw [runnable, runnable, Layout.resolve_foldl_join (fun n ↦ hasSlash_of_mem_named) hroot hsize',
    hstart, Layout.resolve_eq_walk hrelative hne hsize, ← Layout.walk_filter hlast hname]
  rfl

theorem which_eq_none_of_hasNul (hh : h.Sound) {name : String}
    (hnul : (OsText.ofString name).hasNul = true) : h.which name = none := by
  have hcandidates : ∀ p ∈ h.candidates name, p.hasNul = true := by
    intro p hp
    rw [candidates] at hp
    split at hp
    · obtain rfl := List.mem_singleton.1 hp
      rw [hasNul_anchored hh.start_hasNul, hnul]
    · obtain ⟨folder, hfolder, rfl⟩ := List.mem_map.1 hp
      cases hpath : (OsText.ofString name).isAbsolute with
      | true => rw [OsText.join_of_isAbsolute hpath, hnul]
      | false => rw [OsText.hasNul_join hpath, hnul, Bool.or_true]
  exact firstRunnable_eq_none fun p hp ↦ .inl (hcandidates p hp)

section Which

variable {dir : Place} {name : String}

theorem leadsTo_which_of_absolute (hh : h.Sound) (hnul : (OsText.ofString name).hasNul = false)
    (habsolute : (OsText.ofString name).isAbsolute = true) :
    h.LeadsTo (h.which name) (h.locate dir name) := by
  have hslash : (OsText.ofString name).hasSlash = true := by
    rw [OsText.hasSlash_iff]
    exact List.mem_of_mem_head? (OsText.isAbsolute_iff.1 habsolute)
  have hall : ∀ p ∈ h.candidates name, p = .ofString name := by
    intro p hp
    rw [candidates] at hp
    split at hp
    · rw [List.mem_singleton.1 hp, anchored, if_pos habsolute]
    · obtain ⟨folder, -, rfl⟩ := List.mem_map.1 hp
      exact OsText.join_of_isAbsolute habsolute
  have hsome : h.candidates name ≠ [] := by
    rw [candidates]
    split
    · exact List.cons_ne_nil _ _
    · rw [ne_eq, List.map_eq_nil_iff]
      exact hh.searchPath
  rw [which_eq, locate, if_pos hslash, runnable_of_isAbsolute habsolute dir h.start]
  exact leadsTo_of_forall_eq hall hsome hnul

theorem leadsTo_which_of_name (hh : h.Sound) (hne : (OsText.ofString name).isEmpty = false)
    (hnul : (OsText.ofString name).hasNul = false)
    (hslash : (OsText.ofString name).hasSlash = false)
    (hdir : dir = h.start ∨ ∀ folder ∈ h.searchPath, folder.isAbsolute = true)
    (hsize : ∀ folder ∈ h.searchPath, (∀ part ∈ folder.parts, part.octets.size ≤ Layout.maxName) ∧
      (folder.join (.ofString name)).octets.size < Layout.maxPath) :
    h.LeadsTo (h.which name) (h.locate dir name) := by
  have hcandidates : h.candidates name =
      h.searchPath.map fun folder ↦ folder.join (.ofString name) := by
    rw [candidates, if_neg (Nat.not_lt.2 (components_of_not_hasSlash hslash))]
  have hsearched : h.searched = h.searchPath := by
    rw [searched, List.isEmpty_eq_false_iff.2 hh.searchPath]
    rfl
  have hrelative := OsText.isAbsolute_of_not_hasSlash hslash
  rw [which_eq, locate, hslash, hne, hcandidates, hsearched]
  simp only [Bool.false_eq_true, ↓reduceIte]
  split
  · next hlong =>
    have hnowhere : ∀ p ∈ h.searchPath.map fun folder ↦ folder.join (.ofString name),
        p.hasNul = true ∨ ∀ place, h.runnable h.start p ≠ .ok place := by
      intro p hp
      obtain ⟨folder, hfolder, rfl⟩ := List.mem_map.1 hp
      exact .inr (runnable_join_ne_ok hslash hlong (hsize folder hfolder).2)
    rw [firstRunnable_eq_none hnowhere]
    exact nofun
  · next hshort =>
    have hsearch : h.search dir (.ofString name) .notFound h.searchPath =
        h.search h.start (.ofString name) .notFound h.searchPath := by
      rcases hdir with rfl | hfolders
      · rfl
      · exact search_eq_of_forall_isAbsolute hslash hfolders dir h.start .notFound
    rw [hsearch]
    refine leadsTo_search .notFound ?_ ?_
    · intro folder hfolder
      rw [OsText.hasNul_join hrelative, hh.searchPath_hasNul folder hfolder, hnul, Bool.or_false]
    · intro folder hfolder fault hrun
      refine fault_of_runnable ?_ (hsize folder hfolder).2 hrun
      intro part hpart
      rcases OsText.mem_parts_join hrelative hpart with hpart | hpart
      · exact (hsize folder hfolder).1 part hpart
      · rw [OsText.parts_of_not_hasSlash hslash, List.mem_singleton] at hpart
        rw [hpart]
        exact Nat.not_lt.1 hshort

/-- Where the folder does not matter, what is found is what a process that is started runs, and if
nothing is found none can be started. -/
theorem leadsTo_which (hh : h.Sound) (hne : (OsText.ofString name).isEmpty = false)
    (hnul : (OsText.ofString name).hasNul = false) (hsettled : h.Settled dir (.ofString name)) :
    h.LeadsTo (h.which name) (h.locate dir name) := by
  cases hsettled with
  | absolute habsolute => exact leadsTo_which_of_absolute hh hnul habsolute
  | name hslash hdir hsize => exact leadsTo_which_of_name hh hne hnul hslash hdir hsize
  | relative hrelative hslash hdir hlast hname hsize hsize' =>
    have hcandidates : h.candidates name = [h.anchored (.ofString name)] := by
      rw [candidates, if_pos (length_components_of_relative hrelative hslash hlast hname)]
    rw [which_eq, locate, if_pos hslash, hcandidates, hdir,
      ← runnable_anchored hh hrelative hne hlast hname hsize hsize']
    refine leadsTo_of_forall_eq (fun p ↦ List.mem_singleton.1) (List.cons_ne_nil _ _) ?_
    rw [hasNul_anchored hh.start_hasNul, hnul]

end Which

end Host

end BuildHook
