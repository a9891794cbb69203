import Mathlib.Tactic.SplitIfs
import BuildHook.Host.Basic

namespace BuildHook

namespace OsText

def bytes (t : OsText) : List UInt8 := t.octets.data.toList

def ofBytes (l : List UInt8) : OsText := ⟨⟨l.toArray⟩⟩

@[simp]
theorem bytes_append (s t : OsText) : (s ++ t).bytes = s.bytes ++ t.bytes := by
  have h : (s ++ t).octets = s.octets ++ t.octets := rfl
  rw [bytes, h, ByteArray.data_append, Array.toList_append]
  rfl

@[simp]
theorem bytes_slash : (ofString "/").bytes = [slash] := by decide

theorem size_eq (t : OsText) : t.octets.size = t.bytes.length := rfl

theorem isEmpty_iff {t : OsText} : t.isEmpty = true ↔ t.bytes = [] := by
  rw [isEmpty, size_eq, beq_iff_eq, List.length_eq_zero_iff]

theorem isEmpty_iff_eq {t : OsText} : t.isEmpty = true ↔ t = ofString "" := by
  rw [isEmpty, beq_iff_eq, ByteArray.size_eq_zero_iff]
  constructor
  · intro h
    cases t
    cases h
    rfl
  · rintro rfl
    rfl

theorem isEmpty_ofString_iff {s : String} : (ofString s).isEmpty = true ↔ s = "" := by
  rw [isEmpty_iff_eq, ofString_inj]

theorem isAbsolute_iff {t : OsText} : t.isAbsolute = true ↔ t.bytes.head? = some slash := by
  rw [isAbsolute, decide_eq_true_eq, bytes, List.head?_eq_getElem?, Array.getElem?_toList]

theorem isEmpty_of_isAbsolute {t : OsText} (h : t.isAbsolute = true) : t.isEmpty = false := by
  rw [← Bool.not_eq_true, isEmpty_iff]
  intro hempty
  rw [isAbsolute_iff, hempty] at h
  cases h

theorem hasSlash_iff {t : OsText} : t.hasSlash = true ↔ slash ∈ t.bytes := by
  rw [hasSlash, Array.contains_iff_mem, bytes, Array.mem_toList_iff]

theorem hasNul_iff {t : OsText} : t.hasNul = true ↔ 0 ∈ t.bytes := by
  rw [hasNul, Array.contains_iff_mem, bytes, Array.mem_toList_iff]

section Parts

theorem splitOctets_eq_splitOn (separator : UInt8) (l : List UInt8) :
    splitOctets separator l = l.splitOn separator := by
  induction l with
  | nil => rfl
  | cons b rest ih =>
    have hne : rest.splitOn separator ≠ [] := List.splitOn_ne_nil separator rest
    rw [splitOctets, ih, List.splitOn_cons_eq_if_modifyHead]
    cases hrest : rest.splitOn separator with
    | nil => exact absurd hrest hne
    | cons part parts => simp

theorem parts_eq (t : OsText) : t.parts = (t.bytes.splitOn slash).map ofBytes := by
  rw [parts, splitOctets_eq_splitOn]
  rfl

theorem parts_ne_nil (t : OsText) : t.parts ≠ [] := by
  rw [parts_eq, ne_eq, List.map_eq_nil_iff]
  exact List.splitOn_ne_nil _ _

theorem mem_flatten_splitOn {separator b : UInt8} {l : List UInt8} :
    b ∈ (l.splitOn separator).flatten ↔ b ∈ l ∧ b ≠ separator := by
  induction l with
  | nil => simp
  | cons c rest ih =>
    rw [List.splitOn_cons_eq_if_modifyHead]
    split
    · next hc =>
      obtain rfl := eq_of_beq hc
      rw [List.flatten_cons, List.nil_append, ih, List.mem_cons]
      grind
    · next hc =>
      have hne : c ≠ separator := by simpa using hc
      have hflatten : ((rest.splitOn separator).modifyHead (c :: ·)).flatten =
          c :: (rest.splitOn separator).flatten := by
        cases hrest : rest.splitOn separator with
        | nil => exact absurd hrest (List.splitOn_ne_nil _ _)
        | cons part parts => rfl
      rw [hflatten, List.mem_cons, ih, List.mem_cons]
      grind

theorem mem_bytes_iff_of_ne_slash {t : OsText} {b : UInt8} (hb : b ≠ slash) :
    b ∈ t.bytes ↔ ∃ part ∈ t.parts, b ∈ part.bytes := by
  have hmem : b ∈ (t.bytes.splitOn slash).flatten ↔ b ∈ t.bytes := by
    rw [mem_flatten_splitOn, and_iff_left hb]
  rw [← hmem, parts_eq, List.mem_flatten]
  simp only [List.mem_map]
  constructor
  · rintro ⟨l, hl, hmem⟩
    exact ⟨ofBytes l, ⟨l, hl, rfl⟩, hmem⟩
  · rintro ⟨_, ⟨l, hl, rfl⟩, hmem⟩
    exact ⟨l, hl, hmem⟩

theorem hasSlash_of_mem_parts {t part : OsText} (h : part ∈ t.parts) : part.hasSlash = false := by
  rw [← Bool.not_eq_true, hasSlash_iff]
  intro hslash
  rw [parts_eq, List.mem_map] at h
  obtain ⟨l, hl, rfl⟩ := h
  exact (mem_flatten_splitOn.1 (List.mem_flatten.2 ⟨l, hl, hslash⟩)).2 rfl

theorem parts_of_not_hasSlash {t : OsText} (h : t.hasSlash = false) : t.parts = [t] := by
  have hslash : slash ∉ t.bytes := by
    rw [← hasSlash_iff, h]
    exact Bool.false_ne_true
  rw [parts_eq, List.splitOn_eq_singleton hslash]
  rfl

theorem exists_parts_of_hasSlash {t : OsText} (hrelative : t.isAbsolute = false)
    (hslash : t.hasSlash = true) :
    ∃ first rest, t.parts = first :: rest ∧ first.isEmpty = false ∧ rest ≠ [] := by
  rw [hasSlash_iff] at hslash
  rw [← Bool.not_eq_true, isAbsolute_iff] at hrelative
  rw [parts_eq]
  cases hbytes : t.bytes with
  | nil =>
    rw [hbytes] at hslash
    nomatch hslash
  | cons b later =>
    rw [hbytes] at hslash hrelative
    have hb : b ≠ slash := fun h ↦ hrelative (congrArg some h)
    have hlater : slash ∈ later := (List.mem_cons.1 hslash).resolve_left hb.symm
    have hbeq : ¬ (b == slash) = true := by simpa using hb
    rw [List.splitOn_cons_eq_if_modifyHead, if_neg hbeq]
    cases hparts : later.splitOn slash with
    | nil => exact absurd hparts (List.splitOn_ne_nil _ _)
    | cons part parts =>
      refine ⟨ofBytes (b :: part), parts.map ofBytes, rfl, rfl, ?_⟩
      rw [ne_eq, List.map_eq_nil_iff]
      rintro rfl
      -- a single part would be the whole, and it holds no slash
      have hwhole : [slash].intercalate (later.splitOn slash) = later :=
        List.intercalate_splitOn slash
      rw [hparts, List.intercalate_singleton] at hwhole
      have hnone : slash ∉ (later.splitOn slash).flatten := fun h ↦ (mem_flatten_splitOn.1 h).2 rfl
      rw [hparts, List.flatten_singleton, hwhole] at hnone
      exact hnone hlater

theorem isAbsolute_of_not_hasSlash {t : OsText} (h : t.hasSlash = false) :
    t.isAbsolute = false := by
  rw [← Bool.not_eq_true, isAbsolute_iff]
  intro habsolute
  have hslash := hasSlash_iff.2 (List.mem_of_mem_head? habsolute)
  rw [h] at hslash
  cases hslash

end Parts

section Join

variable {folder path : OsText}

theorem join_of_isAbsolute (h : path.isAbsolute = true) : folder.join path = path := by
  rw [join, if_pos (.inl h)]

variable (hpath : path.isAbsolute = false)

include hpath

theorem bytes_join (hfolder : folder.isEmpty = false) :
    (folder.join path).bytes = folder.bytes ++ path.bytes ∧
        (∃ l, folder.bytes = l ++ [slash]) ∨
      (folder.join path).bytes = folder.bytes ++ slash :: path.bytes := by
  have hjoin : ¬ (path.isAbsolute = true ∨ folder.isEmpty = true) := by simp [hpath, hfolder]
  rw [join, if_neg hjoin]
  split
  · next hback =>
    left
    rw [← Array.getLast?_toList, List.getLast?_eq_some_iff] at hback
    exact ⟨bytes_append _ _, hback⟩
  · right
    simp

/-- Nothing comes after a slash at the end of a folder, and the path takes its place. -/
theorem parts_join (hfolder : folder.isEmpty = false) :
    (∃ front, folder.parts = front ++ [ofBytes []] ∧
      (folder.join path).parts = front ++ path.parts) ∨
      (folder.join path).parts = folder.parts ++ path.parts := by
  rcases bytes_join hpath hfolder with ⟨hjoin, l, hslash⟩ | hjoin
  · refine .inl ⟨(l.splitOn slash).map ofBytes, ?_, ?_⟩
    · rw [parts_eq, hslash, List.splitOn_append_cons_self, List.map_append]
      rfl
    · rw [parts_eq, hjoin, hslash, List.append_assoc, List.singleton_append,
        List.splitOn_append_cons_self, List.map_append, ← parts_eq]
  · right
    rw [parts_eq, hjoin, List.splitOn_append_cons_self, List.map_append, ← parts_eq, ← parts_eq]

theorem mem_parts_join {part : OsText} (h : part ∈ (folder.join path).parts) :
    part ∈ folder.parts ∨ part ∈ path.parts := by
  cases hfolder : folder.isEmpty with
  | true =>
    rw [join, if_pos (.inr hfolder)] at h
    exact .inr h
  | false =>
    rcases parts_join hpath hfolder with ⟨front, hfront, hjoin⟩ | hjoin
    · rw [hjoin, List.mem_append] at h
      rw [hfront]
      exact h.imp_left fun hpart ↦ List.mem_append_left _ hpart
    · rwa [hjoin, List.mem_append] at h

theorem length_le_join (folder : OsText) :
    folder.bytes.length ≤ (folder.join path).bytes.length := by
  cases hfolder : folder.isEmpty with
  | true => simp [isEmpty_iff.1 hfolder]
  | false =>
    rcases bytes_join hpath hfolder with ⟨h, -⟩ | h <;> simp [h]

theorem isEmpty_join (hfolder : folder.isEmpty = false) : (folder.join path).isEmpty = false := by
  have hle := length_le_join hpath folder
  rw [← Bool.not_eq_true, isEmpty_iff, ← List.length_eq_zero_iff] at hfolder ⊢
  omega

theorem isAbsolute_join (hfolder : folder.isEmpty = false) :
    (folder.join path).isAbsolute = folder.isAbsolute := by
  have hne : folder.bytes ≠ [] := by
    rw [ne_eq, ← isEmpty_iff, hfolder]
    exact Bool.false_ne_true
  have hhead : (folder.join path).bytes.head? = folder.bytes.head? := by
    obtain ⟨b, rest, hbytes⟩ := List.exists_cons_of_ne_nil hne
    rcases bytes_join hpath hfolder with ⟨h, -⟩ | h <;> rw [h, hbytes] <;> rfl
  rw [Bool.eq_iff_iff, isAbsolute_iff, isAbsolute_iff, hhead]

theorem hasNul_join (folder : OsText) :
    (folder.join path).hasNul = (folder.hasNul || path.hasNul) := by
  rw [Bool.eq_iff_iff, Bool.or_eq_true, hasNul_iff, hasNul_iff, hasNul_iff]
  cases hfolder : folder.isEmpty with
  | true =>
    have hjoin : folder.join path = path := by rw [join, if_pos (.inr hfolder)]
    rw [hjoin, isEmpty_iff.1 hfolder]
    simp
  | false =>
    rcases bytes_join hpath hfolder with ⟨h, -⟩ | h
    · rw [h, List.mem_append]
    · simp [h, slash]

end Join

section Names

variable {names : List OsText} (hnames : ∀ n ∈ names, n.hasSlash = false)

include hnames

theorem length_le_foldl_join (folder : OsText) :
    folder.bytes.length ≤ (names.foldl join folder).bytes.length := by
  induction names generalizing folder with
  | nil => exact Nat.le_refl _
  | cons name rest ih =>
    obtain ⟨hname, hrest⟩ := List.forall_mem_cons.1 hnames
    exact Nat.le_trans (length_le_join (isAbsolute_of_not_hasSlash hname) folder) (ih hrest _)

theorem hasNul_foldl_join (folder : OsText) :
    (names.foldl join folder).hasNul = (folder.hasNul || names.any hasNul) := by
  induction names generalizing folder with
  | nil => exact (Bool.or_false _).symm
  | cons name rest ih =>
    obtain ⟨hname, hrest⟩ := List.forall_mem_cons.1 hnames
    rw [List.foldl_cons, ih hrest, hasNul_join (isAbsolute_of_not_hasSlash hname), List.any_cons,
      Bool.or_assoc]

end Names

def named (t : OsText) : List OsText := t.parts.filter fun p ↦ !p.isEmpty && p ≠ .dot

end OsText

namespace Layout

variable {l : Layout} {place : Place}

theorem walk_cons (part : OsText) (rest : List OsText) :
    l.walk place (part :: rest) = l.walk place [part] >>= fun p ↦ l.walk p rest := by
  simp only [walk]
  split_ifs <;> rfl

theorem walk_append (first second : List OsText) :
    l.walk place (first ++ second) = l.walk place first >>= fun p ↦ l.walk p second := by
  induction first generalizing place with
  | nil => rfl
  | cons part rest ih =>
    rw [List.cons_append, walk_cons, walk_cons part rest]
    cases l.walk place [part] with
    | error fault => rfl
    | ok p => exact ih

theorem walk_of_not_folder {steps : List OsText} (h : l.node? place ≠ some .folder)
    (hsteps : steps ≠ []) : l.walk place steps = .error .notADirectory := by
  obtain ⟨part, rest, rfl⟩ := List.exists_cons_of_ne_nil hsteps
  rw [walk, if_pos h]

theorem walk_of_idle {part : OsText} (rest : List OsText) (hpart : part.isEmpty ∨ part = .dot)
    (h : l.node? place = some .folder) : l.walk place (part :: rest) = l.walk place rest := by
  rw [walk, if_neg (not_not_intro h), if_pos hpart]

/-- A part that says nothing still asks for a folder to stand in, and so does the next part. -/
theorem walk_idle_cons {part : OsText} {rest : List OsText} (hpart : part.isEmpty ∨ part = .dot)
    (hrest : rest ≠ []) : l.walk place (part :: rest) = l.walk place rest := by
  by_cases h : l.node? place = some .folder
  · exact walk_of_idle rest hpart h
  · rw [walk_of_not_folder h (List.cons_ne_nil _ _), walk_of_not_folder h hrest]

theorem walk_filter {steps : List OsText} {last : OsText} (hlast : steps.getLast? = some last)
    (hname : (!last.isEmpty && last ≠ .dot) = true) :
    l.walk place (steps.filter fun p ↦ !p.isEmpty && p ≠ .dot) = l.walk place steps := by
  induction steps generalizing place with
  | nil => nomatch hlast
  | cons part rest ih =>
    by_cases hrest : rest = []
    · subst hrest
      obtain rfl : part = last := Option.some.inj hlast
      rw [List.filter_cons, if_pos hname, List.filter_nil]
    · have hlast' : rest.getLast? = some last := by
        rwa [List.getLast?_cons_of_ne_nil hrest] at hlast
      rw [List.filter_cons]
      split
      · rw [walk_cons, walk_cons part rest]
        cases l.walk place [part] with
        | error fault => rfl
        | ok p => exact ih hlast'
      · next hpart =>
        have hidle : part.isEmpty ∨ part = .dot := by grind
        rw [ih hlast', walk_idle_cons hidle hrest]

theorem walk_join {folder path : OsText} (hpath : path.isAbsolute = false)
    (hfolder : folder.isEmpty = false) :
    l.walk place (folder.join path).parts = l.walk place (folder.parts ++ path.parts) := by
  rcases OsText.parts_join hpath hfolder with ⟨front, hfront, hjoin⟩ | hjoin
  · rw [hjoin, hfront, List.append_assoc, walk_append, walk_append]
    cases l.walk place front with
    | error fault => rfl
    | ok p => exact (walk_idle_cons (.inl rfl) path.parts_ne_nil).symm
  · rw [hjoin]

theorem resolve_of_isAbsolute {path : OsText} (h : path.isAbsolute = true) (dir dir' : Place) :
    l.resolve dir path = l.resolve dir' path := by
  simp only [resolve, h, ↓reduceIte]

theorem resolve_eq_walk {dir : Place} {path : OsText} (hpath : path.isAbsolute = false)
    (hne : path.isEmpty = false) (hsize : path.octets.size < maxPath) :
    l.resolve dir path = l.walk dir path.parts := by
  simp only [resolve, hpath, hne, Nat.not_le.2 hsize, Bool.false_eq_true, ↓reduceIte]

theorem resolve_join {dir : Place} {folder path : OsText} (hpath : path.isAbsolute = false)
    (hfolder : folder.isEmpty = false) (hsize : (folder.join path).octets.size < maxPath) :
    l.resolve dir (folder.join path) = l.resolve dir folder >>= fun p ↦ l.walk p path.parts := by
  have hle := OsText.length_le_join hpath folder
  have hne := OsText.isEmpty_join hpath hfolder
  have hsize' : folder.octets.size < maxPath := by
    rw [OsText.size_eq] at hsize ⊢
    omega
  simp only [resolve, hne, hfolder, OsText.isAbsolute_join hpath hfolder, Nat.not_le.2 hsize,
    Nat.not_le.2 hsize', Bool.false_eq_true, ↓reduceIte]
  rw [walk_join hpath hfolder, walk_append]

theorem fault_of_walk {steps : List OsText} (hsteps : ∀ p ∈ steps, p.octets.size ≤ maxName)
    {fault : Fault} (h : l.walk place steps = .error fault) :
    fault = .notFound ∨ fault = .notADirectory := by
  induction steps generalizing place with
  | nil => cases h
  | cons part rest ih =>
    obtain ⟨hpart, hrest⟩ := List.forall_mem_cons.1 hsteps
    rw [walk] at h
    split at h
    · exact .inr (Except.error.inj h).symm
    · split at h
      · exact ih hrest h
      · split at h
        · exact ih hrest h
        · split at h
          · omega
          · split at h
            · exact .inl (Except.error.inj h).symm
            · exact ih hrest h

theorem walk_name_ne_ok {name : OsText} (h : maxName < name.octets.size) (p : Place) :
    l.walk place [name] ≠ .ok p := by
  have hname : name.isEmpty = false ∧ name ≠ .dot ∧ name ≠ .dotDot := by
    refine ⟨?_, ?_, ?_⟩
    · rw [OsText.isEmpty, beq_eq_false_iff_ne]
      exact Nat.ne_of_gt (Nat.zero_lt_of_lt h)
    · rintro rfl
      exact absurd h (by decide)
    · rintro rfl
      exact absurd h (by decide)
  rw [walk]
  simp only [hname, h, ↓reduceIte, Bool.false_eq_true, or_self]
  split <;> exact nofun

theorem resolve_foldl_join {dir : Place} {names : List OsText} {folder : OsText}
    (hnames : ∀ n ∈ names, n.hasSlash = false) (hfolder : folder.isEmpty = false)
    (hsize : (names.foldl OsText.join folder).octets.size < maxPath) :
    l.resolve dir (names.foldl OsText.join folder) =
      l.resolve dir folder >>= fun p ↦ l.walk p names := by
  induction names generalizing folder with
  | nil =>
    rw [List.foldl_nil]
    cases l.resolve dir folder <;> rfl
  | cons name rest ih =>
    obtain ⟨hname, hrest⟩ := List.forall_mem_cons.1 hnames
    have hrelative := OsText.isAbsolute_of_not_hasSlash hname
    have hle := OsText.length_le_foldl_join hrest (folder.join name)
    have hsize' : (folder.join name).octets.size < maxPath := Nat.lt_of_le_of_lt hle hsize
    rw [List.foldl_cons, ih hrest (OsText.isEmpty_join hrelative hfolder) hsize,
      resolve_join hrelative hfolder hsize', OsText.parts_of_not_hasSlash hname]
    cases l.resolve dir folder with
    | error fault => rfl
    | ok p => exact (walk_cons name rest).symm

end Layout

end BuildHook
