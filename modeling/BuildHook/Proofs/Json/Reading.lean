import Mathlib.Data.List.Forall2
import Mathlib.Data.List.Perm.Basic
import Mathlib.Data.Option.Basic
import BuildHook.Json.Decode
import BuildHook.NameMap

namespace BuildHook

namespace Json

/-- The same value, with the members of its objects in any order. -/
inductive Reordered : Json → Json → Prop
  | refl (v : Json) : Reordered v v
  | arr {items items' : List Json} :
      List.Forall₂ Reordered items items' → Reordered (.arr items) (.arr items')
  | obj {members between members' : List (String × Json)} :
      members.map Prod.fst = between.map Prod.fst →
      List.Forall₂ Reordered (members.map Prod.snd) (between.map Prod.snd) →
      between.Perm members' → Reordered (.obj members) (.obj members')

variable {α : Type}

/-- What the reader makes of a value, however its members are ordered. -/
def Reads (read : Json → Option α) (v : Json) (a : α) : Prop :=
  ∀ w, v.Reordered w → read w = some a

theorem Reads.read {read : Json → Option α} {v : Json} {a : α} (h : Reads read v a) :
    read v = some a := h v (.refl v)

theorem Reads.map {β : Type} {read : Json → Option α} {v : Json} {a : α} (h : Reads read v a)
    (f : α → β) : Reads (fun w ↦ (read w).map f) v (f a) :=
  fun w hw ↦ congrArg (Option.map f) (h w hw)

section Members

variable {members members' : List (String × Json)} {name : String} {v : Json}

theorem lookup_eq_some_iff_mem (hnames : (members.map Prod.fst).Nodup) :
    members.lookup name = some v ↔ (name, v) ∈ members := by
  induction members with
  | nil => simp
  | cons m rest ih =>
    obtain ⟨key, u⟩ := m
    rw [List.map_cons, List.nodup_cons] at hnames
    rw [NameMap.lookup_cons_eq, List.mem_cons]
    split
    · next heq =>
      subst heq
      have hrest : (name, v) ∉ rest := fun hmem ↦ hnames.1 (List.mem_map.2 ⟨(name, v), hmem, rfl⟩)
      simp [hrest, eq_comm]
    · next hne => simp [ih hnames.2, hne]

theorem lookup_eq_of_perm (hnames : (members.map Prod.fst).Nodup) (h : members.Perm members') :
    members'.lookup name = members.lookup name := by
  refine Option.ext fun v ↦ ?_
  rw [lookup_eq_some_iff_mem hnames, lookup_eq_some_iff_mem ((h.map _).nodup_iff.1 hnames),
    h.mem_iff]

theorem lookup_filter_ne {tag : String} (h : name ≠ tag) :
    (members.filter fun m ↦ m.1 ≠ tag).lookup name = members.lookup name := by
  induction members with
  | nil => rfl
  | cons m rest ih =>
    obtain ⟨key, u⟩ := m
    rw [NameMap.lookup_cons_eq, List.filter_cons]
    split
    · rw [NameMap.lookup_cons_eq, ih]
    · next hkey =>
      have heq : key = tag := by simpa using hkey
      rw [if_neg (heq ▸ h), ih]

theorem lookup_filter_self {tag : String} :
    (members.filter fun m ↦ m.1 ≠ tag).lookup tag = none := by
  rw [List.lookup_eq_none_iff]
  intro m hm
  have hne : m.1 ≠ tag := by simpa using (List.mem_filter.1 hm).2
  exact bne_iff_ne.2 hne.symm

theorem lookup_of_forall₂ (hnames : members.map Prod.fst = members'.map Prod.fst)
    (h : List.Forall₂ Reordered (members.map Prod.snd) (members'.map Prod.snd)) :
    Option.Rel Reordered (members.lookup name) (members'.lookup name) := by
  induction members generalizing members' with
  | nil =>
    rw [List.map_nil, eq_comm, List.map_eq_nil_iff] at hnames
    rw [hnames]
    exact .none
  | cons m rest ih =>
    obtain ⟨key, u⟩ := m
    cases members' with
    | nil => nomatch hnames
    | cons m' rest' =>
      obtain ⟨key', u'⟩ := m'
      simp only [List.map_cons, List.cons.injEq, List.forall₂_cons] at hnames h
      obtain ⟨rfl, hnames⟩ := hnames
      rw [NameMap.lookup_cons_eq, NameMap.lookup_cons_eq]
      split
      · exact .some h.1
      · exact ih hnames h.2

theorem exists_members_of_reordered (hnames : (members.map Prod.fst).Nodup) {w : Json}
    (h : Reordered (.obj members) w) :
    ∃ members', w = .obj members' ∧ (members.map Prod.fst).Perm (members'.map Prod.fst) ∧
      ∀ name, Option.Rel Reordered (members.lookup name) (members'.lookup name) := by
  cases h with
  | refl =>
    have hsame : List.Forall₂ Reordered (members.map Prod.snd) (members.map Prod.snd) :=
      List.forall₂_same.2 fun v _ ↦ .refl v
    exact ⟨members, rfl, .refl _, fun name ↦ lookup_of_forall₂ rfl hsame⟩
  | @obj _ between members' hfst hsnd hperm =>
    refine ⟨members', rfl, hfst ▸ hperm.map _, fun name ↦ ?_⟩
    rw [lookup_eq_of_perm (hfst ▸ hnames) hperm]
    exact lookup_of_forall₂ hfst hsnd

end Members

section Scalars

theorem reads_str (s : String) : Reads str? (.str s) s := by
  intro w hw
  cases hw
  rfl

theorem reads_bool (b : Bool) : Reads bool? (.bool b) b := by
  intro w hw
  cases hw
  rfl

def IsCount (n : Nat) : Prop := n < 0x10000000000000000

theorem reads_count {n : Nat} (h : IsCount n) : Reads count? (.nat n) n := by
  intro w hw
  cases hw
  have hfits : (0 : Int) ≤ n ∧ (n : Int) < 0x10000000000000000 := by
    unfold IsCount at h
    omega
  rw [nat, count?, if_pos hfits]
  rfl

theorem reads_halfWord {n : Nat} (h : n < 0x100000000) : Reads halfWord? (.nat n) n := by
  intro w hw
  cases hw
  have hfits : (0 : Int) ≤ n ∧ (n : Int) < 0x100000000 := by omega
  rw [nat, halfWord?, if_pos hfits]
  rfl

theorem reads_exitCode (code : Int32) : Reads exitCode? (.int code.toInt) code := by
  intro w hw
  cases hw
  have hfits : -0x80000000 ≤ code.toInt ∧ code.toInt < 0x80000000 :=
    ⟨code.le_toInt, code.toInt_lt⟩
  rw [exitCode?, if_pos hfits, Int32.ofInt_toInt]

theorem nullable_of_ne_null {read : Json → Option α} {v : Json} (h : v ≠ .null) :
    nullable read v = (read v).map some := by
  cases v with
  | null => exact absurd rfl h
  | _ => rfl

/-- A missing value may be written as null, which the reader of the value itself does not take. -/
theorem reads_nullable {read : Json → Option α} {write : α → Json} (hnull : read .null = none)
    (hread : ∀ x, Reads read (write x) x) (a : Option α) :
    Reads (nullable read) (.option write a) a := by
  intro w hw
  cases a with
  | none =>
    cases hw
    rfl
  | some a =>
    have hvalue := hread a w hw
    have hne : w ≠ .null := by
      rintro rfl
      nomatch hnull.symm.trans hvalue
    rw [nullable_of_ne_null hne, hvalue]
    rfl

end Scalars

structure Fields.Hold (fields : Fields) (members : List (String × Json)) : Prop where
  fit : ∀ count, fields.fit count = true
  given : ∀ {name : String} {v : Json}, members.lookup name = some v →
    ∀ position, ∃ w, v.Reordered w ∧ fields.slot position name = .given w
  unset : ∀ {name : String}, members.lookup name = none →
    ∀ position, fields.slot position name = .unset

theorem Fields.hold_named {members members' : List (String × Json)}
    (h : ∀ name, Option.Rel Reordered (members.lookup name) (members'.lookup name)) :
    (named members').Hold members where
  fit _ := rfl
  given {name v} hv position := by
    have hrel := h name
    rw [hv] at hrel
    cases hw : members'.lookup name with
    | none =>
      rw [hw] at hrel
      nomatch hrel
    | some w =>
      rw [hw] at hrel
      cases hrel with
      | some hvw => exact ⟨w, hvw, by rw [slot, hw]⟩
  unset {name} hnone position := by
    have hrel := h name
    rw [hnone] at hrel
    cases hw : members'.lookup name with
    | none => rw [slot, hw]
    | some w =>
      rw [hw] at hrel
      nomatch hrel

theorem Slot.optional_given (read : Json → Option α) (v : Json) :
    (given v).optional read = nullable read v := by
  cases v <;> rfl

namespace Fields.Hold

variable {fields : Fields} {members : List (String × Json)} (h : fields.Hold members)
  {read : Json → Option α} {write : α → Json} (position : Nat) (name : String)

include h

theorem required {v : Json} {a : α} (hv : members.lookup name = some v) (hread : Reads read v a) :
    (fields.slot position name).required read = some a := by
  obtain ⟨w, hvw, hslot⟩ := h.given hv position
  rw [hslot]
  exact hread w hvw

theorem withDefault {v : Json} {a : α} (fallback : α) (hv : members.lookup name = some v)
    (hread : Reads read v a) : (fields.slot position name).withDefault fallback read = some a := by
  obtain ⟨w, hvw, hslot⟩ := h.given hv position
  rw [hslot]
  exact hread w hvw

theorem optional {v : Json} {a : Option α} (hv : members.lookup name = some v)
    (hread : Reads (nullable read) v a) : (fields.slot position name).optional read = some a := by
  obtain ⟨w, hvw, hslot⟩ := h.given hv position
  rw [hslot, Slot.optional_given]
  exact hread w hvw

theorem optional_leftOut {a : Option α} (hv : members.lookup name = a.map write)
    (hnull : read .null = none) (hread : ∀ x, Reads read (write x) x) :
    (fields.slot position name).optional read = some a := by
  cases a with
  | none =>
    rw [h.unset hv position]
    rfl
  | some a => exact h.optional position name hv (reads_nullable hnull hread (some a))

end Fields.Hold

theorem mapM_of_forall₂ {read : Json → Option α} {items items' : List Json} {l : List α}
    (hread : List.Forall₂ (Reads read) items l) (h : List.Forall₂ Reordered items items') :
    items'.mapM read = some l := by
  induction h generalizing l with
  | nil =>
    cases hread
    rfl
  | cons hv hrest ih =>
    cases hread with
    | cons ha hl => simp [ha _ hv, ih hl]

theorem reads_listOf {read : Json → Option α} {write : α → Json}
    (hread : ∀ x, Reads read (write x) x) (l : List α) :
    Reads (listOf? read) (.list write l) l := by
  have hitems : List.Forall₂ (Reads read) (l.map write) l := by
    rw [List.forall₂_map_left_iff, List.forall₂_same]
    exact fun x _ ↦ hread x
  intro w hw
  cases hw with
  | refl => exact mapM_of_forall₂ hitems (List.forall₂_same.2 fun v _ ↦ .refl v)
  | arr h => exact mapM_of_forall₂ hitems h

theorem reads_strings (l : List String) : Reads strings? (.strings l) l := reads_listOf reads_str l

section Records

variable {members : List (String × Json)}

theorem reads_record {count : Nat} {read : Fields → Option α} {a : α}
    (hnames : (members.map Prod.fst).Nodup)
    (h : ∀ fields : Fields, fields.Hold members → read fields = some a) :
    Reads (record count read) (.obj members) a := by
  intro w hw
  obtain ⟨members', rfl, -, hrel⟩ := exists_members_of_reordered hnames hw
  exact h _ (Fields.hold_named hrel)

theorem tagged?_of_reordered {tag name : String}
    (hnames : (tag :: members.map Prod.fst).Nodup) {w : Json}
    (hw : Reordered (.obj ((tag, .str name) :: members)) w) :
    ∃ fields : Fields, w.tagged? tag = some (name, fields) ∧ fields.Hold members := by
  have htagged : (((tag, Json.str name) :: members).map Prod.fst).Nodup := hnames
  obtain ⟨members', rfl, -, hrel⟩ := exists_members_of_reordered htagged hw
  have htag : members'.lookup tag = some (.str name) := by
    have h := hrel tag
    rw [NameMap.lookup_cons_eq, if_pos rfl] at h
    cases hv : members'.lookup tag with
    | none =>
      rw [hv] at h
      nomatch h
    | some v =>
      rw [hv] at h
      cases h with
      | some h =>
        cases h
        rfl
  refine ⟨.named (members'.filter fun m ↦ m.1 ≠ tag), ?_, Fields.hold_named fun key ↦ ?_⟩
  · rw [tagged?, htag]
    rfl
  · by_cases hkey : key = tag
    · have hout : members.lookup tag = none := by
        rw [List.lookup_eq_none_iff]
        intro m hm
        rw [bne_iff_ne]
        rintro rfl
        exact (List.nodup_cons.1 hnames).1 (List.mem_map_of_mem hm)
      rw [hkey, hout, lookup_filter_self]
      exact .none
    · rw [lookup_filter_ne hkey]
      have h := hrel key
      rwa [NameMap.lookup_cons_eq, if_neg hkey] at h

end Records

end Json

namespace Duration

open Json

theorem ofJson?_eq {members : List (String × Json)} {seconds nanos : Nat}
    (hnames : ∀ m ∈ members, m.1 = "secs" ∨ m.1 = "nanos")
    (hseconds : ((Fields.named members).slot 0 "secs").required count? = some seconds)
    (hnanos : ((Fields.named members).slot 1 "nanos").required halfWord? = some nanos) :
    ofJson? (.obj members) = ofParts? seconds nanos := by
  have hall : (members.all fun m ↦ m.1 = "secs" ∨ m.1 = "nanos") = true := by
    rw [List.all_eq_true]
    exact fun m hm ↦ decide_eq_true (hnames m hm)
  have hguard : guard (members.all fun m ↦ m.1 = "secs" ∨ m.1 = "nanos") = some () := if_pos hall
  simp only [ofJson?, Fields.of?, Fields.fit, Option.bind_eq_bind, Option.bind_some, guard_true,
    Option.pure_def, hguard]
  rw [hseconds, Option.bind_some, hnanos, Option.bind_some]

theorem reads_toJson (d : Duration) : Reads ofJson? d.toJson d := by
  intro w hw
  obtain ⟨members, rfl, hperm, hrel⟩ := exists_members_of_reordered (by simp) hw
  have hfields := Fields.hold_named hrel
  have hnames : ∀ m ∈ members, m.1 = "secs" ∨ m.1 = "nanos" := by
    intro m hm
    have hmem := hperm.mem_iff.2 (List.mem_map_of_mem hm)
    simpa using hmem
  have hhalf : d.subsecond < 0x100000000 := Nat.lt_trans d.subsecond_lt (by decide)
  have hseconds := hfields.required 0 "secs" rfl (reads_count d.seconds_lt)
  have hnanos := hfields.required 1 "nanos" rfl (reads_halfWord hhalf)
  rw [ofJson?_eq hnames hseconds hnanos, ofParts?_parts]

end Duration

end BuildHook
