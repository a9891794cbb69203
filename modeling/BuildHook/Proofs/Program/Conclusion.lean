import BuildHook.Program.Basic

namespace BuildHook

/-- Whether a path can be printed, if there is one; JSON takes only text. -/
def OsText.Printable (json : Bool) (path : Option OsText) : Prop :=
  json = true → ∀ t ∈ path, (t.toString?).isSome

theorem OsText.printable_none (json : Bool) : Printable json none := fun _ ↦ nofun

theorem OsText.isSome_toJson?_iff {path : Option OsText} :
    (Json.option? OsText.toJson? path).isSome ↔ ∀ t ∈ path, (t.toString?).isSome := by
  cases path with
  | none => exact iff_of_true rfl nofun
  | some t => simp [Json.option?, toJson?]

namespace Outcome

def path : Outcome → Option OsText
  | plan p => p.workingDir
  | check c => c.path
  | _ => none

theorem isSome_toJson?_iff (o : Outcome) :
    o.toJson?.isSome ↔ ∀ t ∈ o.path, (t.toString?).isSome := by
  have hresult : o.toJson?.isSome = o.resultJson?.isSome := by
    rw [toJson?]
    cases o.resultJson? <;> rfl
  rw [hresult]
  cases o with
  | phase r => exact iff_of_true rfl nofun
  | info p => exact iff_of_true rfl nofun
  | plan p =>
    rw [path, ← OsText.isSome_toJson?_iff, resultJson?, Plan.toJson?]
    cases Json.option? OsText.toJson? p.workingDir <;> exact Iff.rfl
  | check c =>
    rw [path, ← OsText.isSome_toJson?_iff, resultJson?, ToolCheck.toJson?]
    cases Json.option? OsText.toJson? c.path <;> exact Iff.rfl

theorem render_eq_ok_iff (json : Bool) (o : Outcome) :
    (∃ text, o.render json = .ok text) ↔ OsText.Printable json o.path := by
  rw [OsText.Printable, ← isSome_toJson?_iff, render]
  cases json with
  | false => exact iff_of_true ⟨_, rfl⟩ nofun
  | true =>
    cases o.toJson? with
    | none => exact iff_of_false nofun (fun h ↦ nomatch h rfl)
    | some v => exact iff_of_true ⟨_, rfl⟩ fun _ ↦ rfl

theorem complaint_eq_some {o : Outcome} {e : Error} (h : o.complaint = some e) :
    ∃ c, o = .check c ∧ c.path = none ∧ e = .platform (.commandNotFound c.tool) := by
  cases o with
  | check c =>
    rw [complaint] at h
    split at h
    · nomatch h
    · next hfound =>
      rw [ToolCheck.found, Bool.not_eq_true, Option.isSome_eq_false_iff, Option.isNone_iff_eq_none]
        at hfound
      exact ⟨c, rfl, hfound, (Option.some.inj h).symm⟩
  | phase | plan | info => nomatch h

end Outcome

namespace Surroundings

def statusOf (json : Bool) (ending : Ending Outcome) : Option Nat :=
  (conclude json ending).2.exitStatus

variable (json : Bool)

theorem statusOf_pending : statusOf json .pending = none := rfl

theorem statusOf_fail (e : Error) :
    statusOf json (.fail e) = some (if e.isStepFailure then 255 else 1) := by
  have hstatus : statusOf json (.fail e) = some (Conclusion.seen e.exitStatus) := rfl
  rw [hstatus, Error.exitStatus]
  split <;> rfl

variable {json}

theorem statusOf_ok {o : Outcome} (hpath : OsText.Printable json o.path)
    (hcomplaint : o.complaint = none) : statusOf json (.ok o) = some 0 := by
  obtain ⟨text, hrender⟩ := (o.render_eq_ok_iff json).2 hpath
  simp only [statusOf, Ending.ok, conclude, hrender, hcomplaint]
  rfl

theorem statusOf_ok_eq_one {o : Outcome}
    (h : ¬ OsText.Printable json o.path ∨ o.complaint ≠ none) : statusOf json (.ok o) = some 1 := by
  cases hrender : o.render json with
  | error fault =>
    simp only [statusOf, Ending.ok, conclude, hrender]
    rfl
  | ok text =>
    have hpath : OsText.Printable json o.path := (o.render_eq_ok_iff json).1 ⟨text, hrender⟩
    obtain ⟨e, he⟩ := Option.ne_none_iff_exists'.1 (h.resolve_left (not_not_intro hpath))
    obtain ⟨c, -, -, rfl⟩ := Outcome.complaint_eq_some he
    simp only [statusOf, Ending.ok, conclude, hrender, he]
    rfl

end Surroundings

end BuildHook
