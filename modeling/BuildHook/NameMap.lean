namespace BuildHook

structure NameMap (α : Type u) where
  entries : List (String × α)
  sorted : (entries.map Prod.fst).Pairwise (· < ·)

namespace NameMap

variable {α : Type u}

def empty : NameMap α := ⟨[], .nil⟩

instance : Inhabited (NameMap α) := ⟨empty⟩

def place (name : String) (value : α) : List (String × α) → List (String × α)
  | [] => [(name, value)]
  | (key, old) :: rest =>
    if name < key then (name, value) :: (key, old) :: rest
    else if name = key then (name, value) :: rest
    else (key, old) :: place name value rest

theorem mem_names_place {name key : String} {value : α} {l : List (String × α)} :
    key ∈ (place name value l).map Prod.fst ↔ key = name ∨ key ∈ l.map Prod.fst := by
  induction l with
  | nil => simp [place]
  | cons e rest ih =>
    obtain ⟨k, old⟩ := e
    unfold place
    split
    · simp
    · split
      · subst_vars; simp
      · rw [List.map_cons, List.mem_cons, ih, List.map_cons, List.mem_cons]
        exact or_left_comm

theorem lookup_cons_eq (key name : String) (value : α) (l : List (String × α)) :
    ((name, value) :: l).lookup key = if key = name then some value else l.lookup key := by
  rw [List.lookup_cons]
  by_cases h : key = name
  · rw [if_pos h, beq_iff_eq.2 h]
  · rw [if_neg h, beq_eq_false_iff_ne.2 h]

theorem lookup_place {name key : String} {value : α} {l : List (String × α)} :
    (place name value l).lookup key = if key = name then some value else l.lookup key := by
  induction l with
  | nil => exact lookup_cons_eq key name value []
  | cons e rest ih =>
    obtain ⟨k, old⟩ := e
    unfold place
    split
    · exact lookup_cons_eq key name value _
    · split
      · subst_vars
        rw [lookup_cons_eq, lookup_cons_eq]
        split <;> rfl
      · next hne =>
        rw [lookup_cons_eq, lookup_cons_eq, ih]
        split
        · next h => rw [if_neg (h ▸ Ne.symm hne)]
        · rfl

theorem lt_of_not_lt_of_ne {a b : String} (h : ¬ a < b) (hne : a ≠ b) : b < a :=
  Decidable.byContradiction fun hba ↦
    hne (String.le_antisymm (String.not_lt.1 hba) (String.not_lt.1 h))

theorem sorted_place (name : String) (value : α) {l : List (String × α)}
    (h : (l.map Prod.fst).Pairwise (· < ·)) :
    ((place name value l).map Prod.fst).Pairwise (· < ·) := by
  induction l with
  | nil => simp [place]
  | cons e rest ih =>
    obtain ⟨k, old⟩ := e
    rw [List.map_cons, List.pairwise_cons] at h
    unfold place
    split
    · next hlt =>
      refine List.pairwise_cons.2 ⟨fun x hx ↦ ?_, List.pairwise_cons.2 h⟩
      rcases List.mem_cons.1 hx with rfl | hx
      · exact hlt
      · exact String.lt_trans hlt (h.1 x hx)
    · next hlt =>
      split
      · next heq => subst heq; exact List.pairwise_cons.2 h
      · next hne =>
        refine List.pairwise_cons.2 ⟨fun x hx ↦ ?_, ih h.2⟩
        rcases mem_names_place.1 hx with rfl | hx
        · exact lt_of_not_lt_of_ne hlt hne
        · exact h.1 x hx

def insert (m : NameMap α) (name : String) (value : α) : NameMap α :=
  ⟨place name value m.entries, sorted_place name value m.sorted⟩

def get? (m : NameMap α) (name : String) : Option α := m.entries.lookup name

def contains (m : NameMap α) (name : String) : Bool := (m.get? name).isSome

def names (m : NameMap α) : List String := m.entries.map Prod.fst

theorem get?_insert (m : NameMap α) (name key : String) (value : α) :
    (m.insert name value).get? key = if key = name then some value else m.get? key := lookup_place

theorem mem_names_insert {m : NameMap α} {name key : String} {value : α} :
    key ∈ (m.insert name value).names ↔ key = name ∨ key ∈ m.names := mem_names_place

theorem mem_names_iff {m : NameMap α} {name : String} :
    name ∈ m.names ↔ (m.get? name).isSome := by
  rw [get?, names]
  generalize m.entries = l
  induction l with
  | nil => exact iff_of_false List.not_mem_nil Bool.false_ne_true
  | cons e rest ih =>
    obtain ⟨key, value⟩ := e
    rw [List.map_cons, List.mem_cons, ih, lookup_cons_eq]
    split
    · next h => exact iff_of_true (.inl h) rfl
    · next h => exact or_iff_right h

/-- Of two values for one name the later counts. -/
def ofList (l : List (String × α)) : NameMap α :=
  l.foldl (fun m e ↦ m.insert e.1 e.2) empty

instance [DecidableEq α] : DecidableEq (NameMap α) := fun m n ↦
  if h : m.entries = n.entries then isTrue (by cases m; cases n; simp_all)
  else isFalse (fun e ↦ h (congrArg entries e))

end NameMap

end BuildHook
