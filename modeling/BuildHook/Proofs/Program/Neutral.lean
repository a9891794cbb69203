import BuildHook.Proofs.Program.ExitStatus

namespace BuildHook

namespace Outcome

theorem complaint_of_path {o : Outcome} {path : OsText} (h : path ∈ o.path) :
    o.complaint = none := by
  cases hcomplaint : o.complaint with
  | none => rfl
  | some e =>
    obtain ⟨c, rfl, hmissing, -⟩ := complaint_eq_some hcomplaint
    nomatch hmissing.symm.trans h

end Outcome

namespace Surroundings

variable {σ : Type} (s : Surroundings σ)

def inquire (verb : Verb) (c : Config) : Outcome :=
  match verb with
  | .check => .check ⟨c.hook.tool, s.which c.hook.tool⟩
  | .info => .info c.package
  | _ => .plan c.hook.plan

theorem work_of_inquiry {s : Surroundings σ} {r : Request} {c : Config} (world : World σ)
    (hphase : r.verb.phase = none) (hc : c.Usable) :
    s.work r c world = (.ok (s.inquire r.verb c), world, []) := by
  cases hverb : r.verb with
  | buildExt | build | install =>
    rw [hverb] at hphase
    nomatch hphase
  | plan => exact work_of_plan world hverb hc
  | check | info =>
    rw [work, hverb]
    rfl

def resultPath (verb : Verb) (c : Config) : Option OsText :=
  match verb with
  | .plan => c.hook.workingDir
  | .check => s.which c.hook.tool
  | _ => none

theorem path_inquire {verb : Verb} (hphase : verb.phase = none) (c : Config) :
    (s.inquire verb c).path = s.resultPath verb c := by
  cases verb with
  | buildExt | build | install => nomatch hphase
  | plan | check | info => rfl

theorem resultPath_of_phase {verb : Verb} (hphase : verb.phase.isSome) (c : Config) :
    s.resultPath verb c = none := by
  cases verb with
  | buildExt | build | install => rfl
  | plan | check | info => nomatch hphase

theorem statusOf_ok_json {o : Outcome} (h : ∀ path ∈ o.path, path.toString?.isSome) :
    statusOf true (.ok o) = statusOf false (.ok o) := by
  have hprintable (json : Bool) : OsText.Printable json o.path := fun _ ↦ h
  by_cases hcomplaint : o.complaint = none
  · rw [statusOf_ok (hprintable true) hcomplaint, statusOf_ok (hprintable false) hcomplaint]
  · rw [statusOf_ok_eq_one (.inr hcomplaint), statusOf_ok_eq_one (.inr hcomplaint)]

theorem statusOf_ok_of_unprintable {o : Outcome} {path : OsText} (hpath : path ∈ o.path)
    (h : path.toString? = none) :
    statusOf false (.ok o) = some 0 ∧ statusOf true (.ok o) = some 1 := by
  have hunprintable : ¬ OsText.Printable true o.path := by
    intro hprintable
    have htext := hprintable rfl path hpath
    rw [h] at htext
    nomatch htext
  exact ⟨statusOf_ok nofun (Outcome.complaint_of_path hpath),
    statusOf_ok_eq_one (.inl hunprintable)⟩

variable {s}

theorem run_of_inquiry {args : List OsText} {r : Request} {c : Config}
    (hargs : CommandLine.parse args = .ok r) (hphase : r.verb.phase = none)
    (hc : s.Configured r.options c) (world : World σ) :
    (s.run args world).exitStatus = statusOf r.options.json (.ok (s.inquire r.verb c)) ∧
      (s.run args world).world = world := by
  obtain ⟨hstatus, hworld⟩ := run_of_configured world hargs hc
  rw [hstatus, hworld, work_of_inquiry world hphase (usable_of_configured hc)]
  exact ⟨rfl, rfl⟩

/-- The same request with and without the option for JSON. The same commands run in the same places.
The statuses are the same as well, but for a result that holds a path which is no text: that can be
shown, and cannot be written as JSON. -/
theorem run_json {args args' : List OsText} {r : Request} (hargs : CommandLine.parse args = .ok r)
    (hplain : r.options.json = false)
    (hargs' : CommandLine.parse args' = .ok ⟨r.verb, { r.options with json := true }⟩)
    (world : World σ) :
    (s.run args' world).world = (s.run args world).world ∧
      ((∀ c, s.Configured r.options c →
          ∀ path ∈ s.resultPath r.verb c, path.toString?.isSome) →
        (s.run args' world).exitStatus = (s.run args world).exitStatus) ∧
      ∀ c, s.Configured r.options c →
        ∀ path ∈ s.resultPath r.verb c, path.toString? = none →
          (s.run args world).exitStatus = some 0 ∧ (s.run args' world).exitStatus = some 1 := by
  cases hphase : r.verb.phase with
  | some phase =>
    have hsome : r.verb.phase.isSome := Option.isSome_of_eq_some hphase
    obtain ⟨hstatus, hworld⟩ := s.run_of_phases hargs hargs' rfl hsome hsome world
    refine ⟨hworld, fun _ ↦ hstatus, fun c _ path hpath ↦ ?_⟩
    rw [s.resultPath_of_phase hsome] at hpath
    nomatch hpath
  | none =>
    -- the option changes neither which settings count nor what the result is
    have hinquiry (c : Config) (hc : s.Configured r.options c) :
        (s.run args world).exitStatus = statusOf false (.ok (s.inquire r.verb c)) ∧
          (s.run args' world).exitStatus = statusOf true (.ok (s.inquire r.verb c)) ∧
          (s.run args' world).world = (s.run args world).world := by
      obtain ⟨hstatus, hworld⟩ := run_of_inquiry hargs hphase hc world
      obtain ⟨hstatus', hworld'⟩ := run_of_inquiry hargs' hphase hc world
      rw [hplain] at hstatus
      exact ⟨hstatus, hstatus', hworld'.trans hworld.symm⟩
    by_cases hconfigured : ∃ c, s.Configured r.options c
    · obtain ⟨c, hc⟩ := hconfigured
      obtain ⟨hstatus, hstatus', hworld⟩ := hinquiry c hc
      refine ⟨hworld, fun htext ↦ ?_, fun c hc path hpath hunprintable ↦ ?_⟩
      · rw [hstatus, hstatus']
        refine statusOf_ok_json ?_
        rw [s.path_inquire hphase]
        exact htext c hc
      · obtain ⟨hstatus, hstatus', -⟩ := hinquiry c hc
        rw [hstatus, hstatus']
        rw [← s.path_inquire hphase] at hpath
        exact statusOf_ok_of_unprintable hpath hunprintable
    · rw [not_exists] at hconfigured
      obtain ⟨hstatus, hworld⟩ := run_of_not_configured world hargs hconfigured
      obtain ⟨hstatus', hworld'⟩ := run_of_not_configured world hargs' hconfigured
      refine ⟨hworld'.trans hworld.symm, fun _ ↦ hstatus'.trans hstatus.symm, fun c hc ↦ ?_⟩
      exact absurd hc (hconfigured c)

theorem run_json_of_failing_target :
    let s := failingOn "compiler"
    let world : World (Processes Unit) := ⟨⟨(), [], ""⟩, fun _ ↦ ""⟩
    let args := [OsText.ofString "install"]
    let args' := [OsText.ofString "install", OsText.ofString "--json"]
    CommandLine.parse args = .ok ⟨.install, ⟨false, false, none⟩⟩ ∧
      CommandLine.parse args' = .ok ⟨.install, ⟨true, false, none⟩⟩ ∧
      (s.run args' world).exitStatus = (s.run args world).exitStatus ∧
      (s.run args' world).world.tools.invoked = (s.run args world).world.tools.invoked := by
  intro s world args args'
  have hargs : CommandLine.parse args = .ok ⟨.install, ⟨false, false, none⟩⟩ := rfl
  have hargs' : CommandLine.parse args' = .ok ⟨.install, ⟨true, false, none⟩⟩ := rfl
  obtain ⟨hworld, hstatus, -⟩ := run_json hargs rfl hargs' world
  refine ⟨hargs, hargs', hstatus fun c _ ↦ nofun, ?_⟩
  rw [hworld]

/-- The directory is accepted and shown, and as JSON it is refused. -/
theorem unwritable_of_octets :
    let s := { failingOn "compiler" with overrides := ⟨none, some ⟨⟨#[0x64, 0xFF]⟩⟩⟩ }
    let world : World (Processes Unit) := ⟨⟨(), [], ""⟩, fun _ ↦ ""⟩
    (s.run [.ofString "plan"] world).exitStatus = some 0 ∧
      (s.run [.ofString "plan", .ofString "--json"] world).exitStatus = some 1 := by
  decide +kernel

end Surroundings

end BuildHook
