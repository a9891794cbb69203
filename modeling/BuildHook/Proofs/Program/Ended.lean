import BuildHook.Proofs.Program.Neutral

namespace BuildHook

namespace Conclusion

theorem exitStatus_abort_ne_zero (a : Abort) : (abort a).exitStatus ≠ some 0 := by
  cases a with
  | output fault =>
    have hstatus : (abort (.output fault)).exitStatus = some 1 := rfl
    rw [hstatus]
    decide
  | work e =>
    have hstatus : (abort (.work e)).exitStatus = some (seen e.exitStatus) := rfl
    rw [hstatus, Error.exitStatus]
    split <;> decide

theorem notices_eq_nil {c : Conclusion} (h : c.exitStatus = some 0 ∨ c.exitStatus = none) :
    c.notices = [] := by
  cases c with
  | success | unfinished => rfl
  | abort a =>
    rcases h with h | h
    · exact absurd h (exitStatus_abort_ne_zero a)
    · cases h

theorem eq_abort {c : Conclusion} {status : Nat} (h : c.exitStatus = some status)
    (hne : status ≠ 0) : ∃ a, c = abort a := by
  cases c with
  | success =>
    cases h
    exact absurd rfl hne
  | abort a => exact ⟨a, rfl⟩
  | unfinished => cases h

end Conclusion

namespace Surroundings

variable {σ : Type}

/-- What the program comes to if it is asked for something and all goes well. -/
def Attains (s : Surroundings σ) (r : Request) (c : Config) (world : World σ) (o : Outcome) :
    Prop :=
  match r.verb.phase with
  | none => o = s.inquire r.verb c
  | some phase => ∃ report, ((s.hook c.hook.plan world).run world.draw.2).ending = .ok report ∧
      o = .phase ⟨phase, [report]⟩

variable (s : Surroundings σ) (r : Request) (world : World σ)

/-- The check does not find the tool of the settings. -/
def Lacks : Prop :=
  ∃ c, s.Configured r.options c ∧ r.verb = .check ∧ s.which c.hook.tool = none

inductive EndedBy : Abort → Prop
  | settings {e : Error} (h : (s.settings r.options).1 = .error e) : EndedBy (.work e)
  | step {c : Config} {phase : Phase} {e : Error} (hc : s.Configured r.options c)
    (hphase : r.verb.phase = some phase)
    (h : ((s.hook c.hook.plan world).run world.draw.2).ending = .fail e) : EndedBy (.work e)
  | missing {c : Config} (hc : s.Configured r.options c) (hverb : r.verb = .check)
    (h : s.which c.hook.tool = none) :
    EndedBy (.work (.platform (.commandNotFound c.hook.tool)))
  | unwritable {c : Config} {o : Outcome} {fault : Fault} (hc : s.Configured r.options c)
    (ho : s.Attains r c world o) (h : o.render r.options.json = .error fault) :
    EndedBy (.output fault)

inductive Concludes : Option String → Conclusion → Prop
  | success {c : Config} {o : Outcome} {text : String} (hlacks : ¬ s.Lacks r)
    (hc : s.Configured r.options c) (ho : s.Attains r c world o)
    (h : o.render r.options.json = .ok text) : Concludes (some text) .success
  | lacking {c : Config} {text : String} (hc : s.Configured r.options c) (hverb : r.verb = .check)
    (hwhich : s.which c.hook.tool = none)
    (h : (Outcome.check ⟨c.hook.tool, none⟩).render r.options.json = .ok text) :
    Concludes (some text) (.abort (.work (.platform (.commandNotFound c.hook.tool))))
  | abort {a : Abort} (hlacks : ¬ s.Lacks r) (ha : s.EndedBy r world a) :
    Concludes none (.abort a)
  | unfinished (hlacks : ¬ s.Lacks r) : Concludes none .unfinished

section Cases

variable {s} {r} {world} {c : Config}

theorem not_lacks_of_phase {phase : Phase} (hphase : r.verb.phase = some phase) :
    ¬ s.Lacks r := by
  rintro ⟨d, -, hverb, -⟩
  rw [hverb] at hphase
  cases hphase

theorem attains_check_iff {o : Outcome} (hverb : r.verb = .check) :
    s.Attains r c world o ↔ o = .check ⟨c.hook.tool, s.which c.hook.tool⟩ := by
  rw [Attains, hverb]
  exact Iff.rfl

theorem of_lacks {o : Outcome} (hc : s.Configured r.options c) (ho : s.Attains r c world o)
    (h : s.Lacks r) :
    (∃ text, o.render r.options.json = .ok text) ∧
      o.complaint = some (.platform (.commandNotFound c.hook.tool)) := by
  obtain ⟨d, hd, hverb, hwhich⟩ := h
  obtain rfl := configured_unique hc hd
  rw [attains_check_iff hverb, hwhich] at ho
  subst ho
  exact ⟨(Outcome.render_eq_ok_iff _ _).2 (OsText.printable_none _), rfl⟩

theorem lacks_of_complaint {o : Outcome} {e : Error} (ho : s.Attains r c world o)
    (h : o.complaint = some e) :
    r.verb = .check ∧ s.which c.hook.tool = none ∧ o = .check ⟨c.hook.tool, none⟩ ∧
      e = .platform (.commandNotFound c.hook.tool) := by
  obtain ⟨found, rfl, hmissing, rfl⟩ := Outcome.complaint_eq_some h
  cases hverb : r.verb with
  | check =>
    obtain rfl := Outcome.check.inj ((attains_check_iff hverb).1 ho)
    have hwhich : s.which c.hook.tool = none := hmissing
    rw [hwhich]
    exact ⟨rfl, rfl, rfl, rfl⟩
  | plan | info =>
    rw [Attains, hverb] at ho
    cases ho
  | buildExt | build | install =>
    rw [Attains, hverb] at ho
    obtain ⟨report, -, ho⟩ := ho
    cases ho

theorem concludes_of_attains {o : Outcome} (hc : s.Configured r.options c)
    (ho : s.Attains r c world o) :
    s.Concludes r world (conclude r.options.json (.ok o)).1
      (conclude r.options.json (.ok o)).2 := by
  cases hrender : o.render r.options.json with
  | error fault =>
    simp only [conclude, Ending.ok, hrender]
    refine .abort (fun hlacks ↦ ?_) (.unwritable hc ho hrender)
    obtain ⟨⟨text, htext⟩, -⟩ := of_lacks hc ho hlacks
    rw [hrender] at htext
    cases htext
  | ok text =>
    simp only [conclude, Ending.ok, hrender]
    cases hcomplaint : o.complaint with
    | none =>
      refine .success (fun hlacks ↦ ?_) hc ho hrender
      rw [(of_lacks hc ho hlacks).2] at hcomplaint
      cases hcomplaint
    | some e =>
      obtain ⟨hverb, hwhich, rfl, rfl⟩ := lacks_of_complaint ho hcomplaint
      exact .lacking hc hverb hwhich hrender

namespace Concludes

variable {printed : Option String} {conclusion : Conclusion}
  (h : s.Concludes r world printed conclusion)

include h

theorem exists_result (hresult : conclusion.exitStatus = some 0 ∨ s.Lacks r) :
    ∃ text, printed = some text ∧ ∃ c o, s.Configured r.options c ∧ s.Attains r c world o ∧
      o.render r.options.json = .ok text := by
  cases h with
  | success hlacks hc ho h => exact ⟨_, rfl, _, _, hc, ho, h⟩
  | @lacking c text hc hverb hwhich h =>
    have ho : s.Attains r c world (.check ⟨c.hook.tool, none⟩) := by
      rw [attains_check_iff hverb, hwhich]
    exact ⟨_, rfl, _, _, hc, ho, h⟩
  | @abort a hlacks ha =>
    rcases hresult with hstatus | hresult
    · exact absurd hstatus (Conclusion.exitStatus_abort_ne_zero a)
    · exact absurd hresult hlacks
  | unfinished hlacks =>
    rcases hresult with hstatus | hresult
    · cases hstatus
    · exact absurd hresult hlacks

theorem printed_eq_none (hstatus : conclusion.exitStatus ≠ some 0) (hlacks : ¬ s.Lacks r) :
    printed = none := by
  cases h with
  | success => exact absurd rfl hstatus
  | lacking hc hverb hwhich => exact absurd ⟨_, hc, hverb, hwhich⟩ hlacks
  | abort | unfinished => rfl

theorem exitStatus_of_lacks (hlacks : s.Lacks r) : conclusion.exitStatus = some 1 := by
  cases h with
  | lacking => rfl
  | success hnot | abort hnot | unfinished hnot => exact absurd hlacks hnot

theorem endedBy {a : Abort} (ha : conclusion = .abort a) : s.EndedBy r world a := by
  cases h with
  | lacking hc hverb hwhich =>
    cases ha
    exact .missing hc hverb hwhich
  | abort hlacks hended =>
    cases ha
    exact hended
  | success | unfinished => cases ha

end Concludes

end Cases

theorem concludes_perform :
    s.Concludes r world (s.perform r world).printed (s.perform r world).conclusion := by
  by_cases hconfigured : ∃ c, s.Configured r.options c
  · obtain ⟨c, hc⟩ := hconfigured
    have husable := usable_of_configured hc
    rw [perform_eq_of_configured world hc]
    cases hphase : r.verb.phase with
    | none =>
      rw [work_of_inquiry world hphase husable]
      refine concludes_of_attains hc ?_
      rw [Attains, hphase]
    | some phase =>
      rw [(work_of_phase world hphase husable).1]
      cases hending : ((s.hook c.hook.plan world).run world.draw.2).ending with
      | ok report =>
        refine concludes_of_attains hc ?_
        rw [Attains, hphase]
        exact ⟨report, hending, rfl⟩
      | fail e => exact .abort (not_lacks_of_phase hphase) (.step hc hphase hending)
      | pending => exact .unfinished (not_lacks_of_phase hphase)
  · obtain ⟨e, hsettings, -⟩ := settings_of_not_configured (not_exists.1 hconfigured)
    rw [perform_eq_of_error world hsettings]
    refine .abort ?_ (.settings hsettings)
    rintro ⟨c, hc, -⟩
    exact hconfigured ⟨c, hc⟩

variable {s} {r} {world} in
theorem endedBy_of_perform {a : Abort} (h : (s.perform r world).conclusion = .abort a) :
    s.EndedBy r world a :=
  (s.concludes_perform r world).endedBy h

theorem run_eq_perform {r : Request} {args : List OsText}
    (hargs : CommandLine.parse args = .ok r) :
    s.run args world =
      ⟨(s.perform r world).conclusion.exitStatus, (s.perform r world).printed.getD "",
        Notice.texts (.choose s.logFilter r.options) s.clock (s.perform r world).notices,
        (s.perform r world).world⟩ := by
  simp only [run, hargs]

end Surroundings

end BuildHook
