import BuildHook.Program.Basic
import BuildHook.Proofs.Lifecycle.Operation
import BuildHook.Proofs.Program.Loop

namespace BuildHook

def Attempt.Fails (a : Attempt) : Prop :=
  match a.reply.answer with
  | .ended status => status.exitCode ≠ some 0
  | .refused _ => True
  | .never => False

theorem Attempt.isSome_failure_iff (a : Attempt) : a.failure.isSome ↔ a.Fails := by
  rw [failure, Fails]
  cases a.reply.answer with
  | ended status => simp [ExitStatus.success]
  | refused e => exact iff_of_true rfl trivial
  | never => exact iff_of_false Bool.false_ne_true id

namespace Surroundings

variable {σ : Type} (s : Surroundings σ) (p : Plan) (world : World σ)

def hook : Hook σ :=
  let hook := (Hook.create p s.executor world).1
  { hook with context := hook.context.listen }

/-- What comes of the steps of a plan if all of them are attempted, whatever the replies. -/
def prospect : List Attempt := (s.hook p world).attempts p.steps world.tools

def asked (phase : Phase) : List Command :=
  let (l, _, world) := s.lifecycle p world
  (l.runPhase phase world).trace.asked

def sent (phase : Phase) : List Message :=
  let (l, _, world) := s.lifecycle p world
  (l.runPhase phase world).trace.sent

theorem hook_ready : ∀ step, (s.hook p world).state ≠ .running step := fun _ h ↦ nomatch h

theorem get?_lifecycle :
    (s.lifecycle p world).1.table.get? Phase.buildCommand = some ⟨1, .hook (s.hook p world)⟩ :=
  NameMap.get?_insert _ _ _ _

theorem runPhase_eq (quiet : Bool) (phase : Phase) :
    (s.runPhase quiet p phase world).1 =
        ((s.hook p world).run world.draw.2).ending.map (fun report ↦ ⟨phase, [report]⟩) ∧
      (s.runPhase quiet p phase world).2.1 = ((s.hook p world).run world.draw.2).world ∧
      s.asked p world phase = ((s.hook p world).run world.draw.2).trace.asked := by
  obtain ⟨hending, hworld, htrace⟩ :=
    Lifecycle.runPhase_of_hook (s.get?_lifecycle p world) phase world.draw.2
  refine ⟨?_, hworld, ?_⟩
  · rw [← hending, runPhase]
    exact (Work.drive_result _ _).trans (Work.result_ofTrace _ _)
  · have hasked := congrArg Trace.asked htrace
    rw [Trace.asked_append, Trace.asked_append, Phase.asked_closing, List.append_nil] at hasked
    exact hasked

theorem sent_eq (phase : Phase) :
    s.sent p world phase = ((s.hook p world).run world.draw.2).trace.sent ++
      Trace.sent (phase.closing true ((s.hook p world).run world.draw.2).ending) := by
  obtain ⟨-, -, htrace⟩ :=
    Lifecycle.runPhase_of_hook (s.get?_lifecycle p world) phase world.draw.2
  have hsent := congrArg Trace.sent htrace
  rw [Trace.sent_append, Trace.sent_append] at hsent
  exact hsent

/-- The first step that does not end with exit code zero is one with this property. -/
def StopsAt (stop : Attempt → Prop) : Prop :=
  ∃ passed a left, s.prospect p world = passed ++ a :: left ∧
    (∀ b ∈ passed, b.reply.answer = .ended (.ofCode 0)) ∧
    a.reply.answer ≠ .ended (.ofCode 0) ∧ stop a

theorem stopsAt_iff {stop : Attempt → Prop} :
    s.StopsAt p world stop ↔
      ∃ a, (s.prospect p world)[Attempt.stop (s.prospect p world)]? = some a ∧ stop a := by
  simp only [StopsAt, Attempt.getElem?_stop_eq_some_iff, Attempt.passes_iff,
    ← Bool.not_eq_true]
  constructor
  · rintro ⟨passed, a, left, hall, hpassed, ha, hstop⟩
    exact ⟨a, ⟨ha, passed, left, hall, hpassed⟩, hstop⟩
  · rintro ⟨a, ⟨ha, passed, left, hall, hpassed⟩, hstop⟩
    exact ⟨passed, a, left, hall, hpassed, ha, hstop⟩

theorem passes_or_stopsAt :
    (∀ a ∈ s.prospect p world, a.reply.answer = .ended (.ofCode 0)) ∨
      s.StopsAt p world Attempt.Fails ∨ s.StopsAt p world (·.reply.answer = .never) := by
  cases hstop : (s.prospect p world)[Attempt.stop (s.prospect p world)]? with
  | none =>
    rw [Attempt.getElem?_stop_eq_none_iff] at hstop
    exact .inl fun a ha ↦ Attempt.passes_iff.1 (hstop a ha)
  | some a =>
    right
    rw [stopsAt_iff, stopsAt_iff]
    obtain ⟨hnot, -⟩ := Attempt.getElem?_stop_eq_some_iff.1 hstop
    rcases a.passes_or_fails_or_hangs with hp | ⟨e, hf⟩ | hn
    · rw [hnot] at hp
      nomatch hp
    · have hfails : a.Fails := a.isSome_failure_iff.1 (Option.isSome_of_eq_some hf)
      exact .inl ⟨a, hstop, hfails⟩
    · exact .inr ⟨a, hstop, hn⟩

section Build

variable {s} {p} {world} (hplan : p.steps ≠ [])

include hplan

theorem run_hook_of_passes
    (h : ∀ a ∈ s.prospect p world, a.reply.answer = .ended (.ofCode 0)) :
    ∃ report, ((s.hook p world).run world.draw.2).ending = .ok report := by
  have hall : (s.prospect p world)[Attempt.stop (s.prospect p world)]? = none := by
    rw [Attempt.getElem?_stop_eq_none_iff]
    exact fun a ha ↦ Attempt.passes_iff.2 (h a ha)
  exact ⟨_, (Hook.run_of_all_pass world.draw.2 hplan (s.hook_ready p world) hall).1⟩

theorem run_hook_of_fails (h : s.StopsAt p world Attempt.Fails) :
    ∃ e, ((s.hook p world).run world.draw.2).ending = .fail e ∧ e.isStepFailure = true := by
  obtain ⟨a, hstop, hfails⟩ := (s.stopsAt_iff p world).1 h
  rcases Hook.run_of_stop world.draw.2 hplan (s.hook_ready p world) hstop with
    ⟨e, hf, hending, -⟩ | ⟨hn, -⟩
  · obtain ⟨command, detail, rfl⟩ := Attempt.failure_eq_stepFailed hf
    exact ⟨_, hending, rfl⟩
  · rw [Attempt.Fails, hn] at hfails
    nomatch hfails

theorem run_hook_of_hangs (h : s.StopsAt p world (·.reply.answer = .never)) :
    ((s.hook p world).run world.draw.2).ending = .pending := by
  obtain ⟨a, hstop, hnever⟩ := (s.stopsAt_iff p world).1 h
  rcases Hook.run_of_stop world.draw.2 hplan (s.hook_ready p world) hstop with
    ⟨e, hf, -⟩ | ⟨-, hending, -⟩
  · exact absurd hnever (Attempt.ne_never_of_failure hf)
  · exact hending

theorem isStepFailure_of_fail {e : Error}
    (h : ((s.hook p world).run world.draw.2).ending = .fail e) : e.isStepFailure = true := by
  rcases s.passes_or_stopsAt p world with hpasses | hfails | hhangs
  · obtain ⟨report, hending⟩ := run_hook_of_passes hplan hpasses
    cases hending.symm.trans h
  · obtain ⟨err, hending, herr⟩ := run_hook_of_fails hplan hfails
    cases hending.symm.trans h
    exact herr
  · cases (run_hook_of_hangs hplan hhangs).symm.trans h

end Build

end Surroundings

end BuildHook
