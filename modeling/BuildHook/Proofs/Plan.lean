import BuildHook.Plan

namespace BuildHook

theorem length_eq_of_mapM {α β : Type} {f : α → Option β} {l : List α} {l' : List β}
    (h : l.mapM f = some l') : l'.length = l.length := by
  induction l generalizing l' with
  | nil =>
    obtain rfl : [] = l' := Option.some.inj h
    rfl
  | cons a l ih =>
    rw [List.mapM_cons, Option.bind_eq_bind, Option.bind_eq_some_iff] at h
    obtain ⟨b, -, h⟩ := h
    obtain ⟨rest, hrest, h⟩ := Option.bind_eq_some_iff.1 h
    obtain rfl : b :: rest = l' := Option.some.inj h
    rw [List.length_cons, List.length_cons, ih hrest]

namespace Json

variable {α : Type}

theorem record_eq_some {count : Nat} {read : Fields → Option α} {v : Json} {a : α}
    (h : record count read v = some a) :
    ∃ fields, Fields.of? v = some fields ∧ read fields = some a := by
  obtain ⟨fields, hfields, h⟩ := Option.bind_eq_some_iff.1 h
  obtain ⟨_, -, hread⟩ := Option.bind_eq_some_iff.1 h
  exact ⟨fields, hfields, hread⟩

theorem Slot.required_eq_some_iff {s : Slot} {read : Json → Option α} {a : α} :
    s.required read = some a ↔ ∃ v, s = .given v ∧ read v = some a := by
  cases s with
  | given v => simp [required]
  | unset | beyond => simp [required]

theorem listOf?_eq_some_iff {read : Json → Option α} {v : Json} {l : List α} :
    listOf? read v = some l ↔ ∃ items, v.items? = some items ∧ items.mapM read = some l :=
  Option.bind_eq_some_iff

end Json

namespace Plan

variable {p : Plan}

def listed? (v : Json) : Option (List Json) := do
  ((← Json.Fields.of? v).slot 0 "steps").required Json.items?

theorem mapM_of_ofJson? {v : Json} (h : ofJson? v = some p) :
    ∃ items, listed? v = some items ∧ items.mapM Step.ofJson? = some p.steps := by
  obtain ⟨fields, hfields, hread⟩ := Json.record_eq_some h
  obtain ⟨steps, hsteps, hread⟩ := Option.bind_eq_some_iff.1 hread
  obtain ⟨dir, -, hp⟩ := Option.bind_eq_some_iff.1 hread
  obtain rfl : ⟨steps, dir⟩ = p := Option.some.inj hp
  obtain ⟨w, hslot, hlist⟩ := Json.Slot.required_eq_some_iff.1 hsteps
  obtain ⟨items, hitems, hmap⟩ := Json.listOf?_eq_some_iff.1 hlist
  refine ⟨items, ?_, hmap⟩
  rw [listed?, hfields, Option.bind_eq_bind, Option.bind_some]
  exact Json.Slot.required_eq_some_iff.2 ⟨w, hslot, hitems⟩

theorem isEmpty_iff_of_ofJson? {v : Json} (h : ofJson? v = some p) :
    p.isEmpty = true ↔ listed? v = some [] := by
  obtain ⟨items, hitems, hmap⟩ := mapM_of_ofJson? h
  have hlength := length_eq_of_mapM hmap
  rw [isEmpty, List.isEmpty_iff, hitems, Option.some.injEq, ← List.length_eq_zero_iff, hlength,
    List.length_eq_zero_iff]

theorem steps_ne_nil_of_ofSteps {steps : List Step} (h : ofSteps steps = .ok p) :
    p.steps ≠ [] := by
  rw [ofSteps] at h
  split at h
  · nomatch h
  · next hsteps =>
    obtain rfl := Except.ok.inj h
    exact fun hnil ↦ hsteps (List.isEmpty_iff.2 hnil)

theorem steps_ne_nil_of_ofConfig {c : HookConfig} (h : ofConfig c = .ok p) : p.steps ≠ [] := by
  rw [ofConfig] at h
  cases hsteps : ofSteps (c.targets.map (Step.mk c.tool)) with
  | error e =>
    rw [hsteps] at h
    nomatch h
  | ok q =>
    rw [hsteps] at h
    obtain rfl := Except.ok.inj h
    exact steps_ne_nil_of_ofSteps (p := q) hsteps

/-- The ways to a plan. The values that were read are those of which `read` holds. -/
inductive Made (read : Json → Prop) : Plan → Prop
  | ofSteps {steps : List Step} {p : Plan} : Plan.ofSteps steps = .ok p → Made read p
  | ofConfig {c : HookConfig} {p : Plan} : Plan.ofConfig c = .ok p → Made read p
  | runIn {p : Plan} (dir : OsText) : Made read p → Made read (p.runIn dir)
  | ofJson {v : Json} {p : Plan} : read v → Plan.ofJson? v = some p → Made read p

/-- Only reading can give a plan without steps, and then none were listed. -/
theorem Made.isEmpty_eq_false {read : Json → Prop} (h : Made read p)
    (hread : ∀ v, read v → listed? v ≠ some []) : p.isEmpty = false := by
  induction h with
  | ofSteps hmade =>
    rw [isEmpty, List.isEmpty_eq_false_iff]
    exact steps_ne_nil_of_ofSteps hmade
  | ofConfig hmade =>
    rw [isEmpty, List.isEmpty_eq_false_iff]
    exact steps_ne_nil_of_ofConfig hmade
  | runIn dir hmade ih => exact ih
  | ofJson hv hmade =>
    rw [← Bool.not_eq_true, isEmpty_iff_of_ofJson? hmade]
    exact hread _ hv

end Plan

end BuildHook
