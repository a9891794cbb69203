import BuildHook.Proofs.Program.Processes

namespace BuildHook

namespace CommandLine

theorem exists_verb_of_readBefore {r before : Reading} {args rest : List OsText} {v : Verb}
    (h : readBefore r args = .ok (before, some (v, rest))) :
    ∃ w ∈ args, pageOf? w = some (.verb v) := by
  induction args generalizing r with
  | nil => nomatch h
  | cons w args ih =>
    rw [readBefore] at h
    split at h
    · next v' hpage =>
      cases h
      refine ⟨w, List.mem_cons_self, ?_⟩
      split at hpage
      · nomatch hpage
      · exact hpage
    · nomatch h
    · split at h
      · cases hclose : r.close none args with
        | error d =>
          rw [hclose] at h
          nomatch h
        | ok closed =>
          rw [hclose] at h
          nomatch h
      · cases htake : r.take none w with
        | error d =>
          rw [htake] at h
          nomatch h
        | ok taken =>
          rw [htake] at h
          obtain ⟨w', hw', hpage⟩ := ih h
          exact ⟨w', List.mem_cons_of_mem w hw', hpage⟩

theorem exists_verb_of_parse {args : List OsText} {r : Request} (h : parse args = .ok r) :
    ∃ w ∈ args, pageOf? w = some (.verb r.verb) := by
  obtain ⟨⟨before, none | ⟨v, rest⟩⟩, hbefore, h⟩ := exists_ok_of_bind h
  · obtain ⟨_, -, h⟩ := exists_ok_of_bind h
    nomatch h
  · obtain ⟨_, -, h⟩ := exists_ok_of_bind h
    obtain ⟨_, -, h⟩ := exists_ok_of_bind h
    obtain ⟨_, -, h⟩ := exists_ok_of_bind h
    cases h
    exact exists_verb_of_readBefore hbefore

end CommandLine

def Deviation.status : Deviation → Nat
  | .help _ | .version => 0
  | .misuse _ => 2

namespace Surroundings

variable {σ : Type} (s : Surroundings σ) (args : List OsText) (world : World σ)

section Cases

variable {s} {args} {world}

theorem run_of_deviation {d : Deviation} (hargs : CommandLine.parse args = .error d) :
    (s.run args world).exitStatus = some d.status ∧ (s.run args world).world = world := by
  rw [run, hargs]
  cases d <;> exact ⟨rfl, rfl⟩

/-- A status other than zero and one, or none at all, is due to a step. -/
theorem run_of_request {r : Request} (hargs : CommandLine.parse args = .ok r) :
    (s.run args world).exitStatus ∈ [some 0, some 1] ∨
      r.verb.phase.isSome ∧ ∃ c, s.Configured r.options c ∧
        ((s.run args world).exitStatus = some 255 ∧
            s.StopsAt c.hook.plan world Attempt.Fails ∨
          (s.run args world).exitStatus = none ∧
            s.StopsAt c.hook.plan world (·.reply.answer = .never)) := by
  by_cases hconfigured : ∃ c, s.Configured r.options c
  · obtain ⟨c, hc⟩ := hconfigured
    rcases s.succeeds_or_refuses_or_stopsAt r c world with h | h | ⟨hphase, h | h⟩
    · left
      rw [exitStatus_of_succeeds hargs hc h]
      decide
    · left
      have hstatus : (s.run args world).exitStatus = some 1 := exitStatus_of_refuses hargs hc h
      rw [hstatus]
      decide
    · exact .inr ⟨hphase, c, hc, .inl ⟨exitStatus_of_fails hargs hc hphase h, h⟩⟩
    · exact .inr ⟨hphase, c, hc, .inr ⟨exitStatus_of_hangs hargs hc hphase h, h⟩⟩
  · left
    rw [(run_of_not_configured world hargs (not_exists.1 hconfigured)).1]
    decide

end Cases

theorem exitStatus_mem {status : Nat} (h : (s.run args world).exitStatus = some status) :
    status ∈ [0, 1, 2, 255] := by
  cases hargs : CommandLine.parse args with
  | error d =>
    rw [(run_of_deviation hargs).1] at h
    cases h
    cases d <;> simp [Deviation.status]
  | ok r =>
    rcases run_of_request hargs with hfew | ⟨-, c, -, ⟨h', -⟩ | ⟨h', -⟩⟩
    · rw [h] at hfew
      simp only [List.mem_cons, Option.some.injEq, List.not_mem_nil, or_false] at hfew
      rcases hfew with rfl | rfl <;> decide
    · cases h.symm.trans h'
      decide
    · cases h.symm.trans h'

theorem exitStatus_eq_two_iff :
    (s.run args world).exitStatus = some 2 ↔
      ∃ m, CommandLine.parse args = .error (.misuse m) := by
  constructor
  · intro h
    cases hargs : CommandLine.parse args with
    | error d =>
      rw [(run_of_deviation hargs).1] at h
      cases d with
      | help page | version => cases h
      | misuse m => exact ⟨m, rfl⟩
    | ok r =>
      rcases run_of_request hargs with hfew | ⟨-, c, -, ⟨h', -⟩ | ⟨h', -⟩⟩
      · rw [h] at hfew
        exact absurd hfew (by decide)
      · cases h.symm.trans h'
      · cases h.symm.trans h'
  · rintro ⟨m, hargs⟩
    exact (run_of_deviation hargs).1

theorem request_of_exitStatus {status : Option Nat} (h : (s.run args world).exitStatus = status)
    (hstatus : status ∉ [some 0, some 1, some 2]) : ∃ r, CommandLine.parse args = .ok r := by
  cases hargs : CommandLine.parse args with
  | error d =>
    rw [(run_of_deviation hargs).1] at h
    subst h
    cases d <;> exact absurd hstatus (by simp [Deviation.status])
  | ok r => exact ⟨r, rfl⟩

theorem asked_eq {p : Plan} (hplan : p.steps ≠ []) (phase : Phase) :
    s.asked p world phase =
      (p.steps.take (Attempt.stop (s.prospect p world) + 1)).map p.command := by
  rw [(s.runPhase_eq p world true phase).2.2]
  exact Hook.run_asked world.draw.2 hplan (s.hook_ready p world)

/-- The status of any command line. Two is for misuse alone, and a line without a verb is no
request. A request comes to 255 only if it has a phase and the last step that was asked for has
failed, and it has no status only if a step never ends. -/
theorem exitStatus_cases (s : Surroundings σ) (args : List OsText) (world : World σ) :
    let t := s.run args world
    (∀ status, t.exitStatus = some status → status ∈ [0, 1, 2, 255]) ∧
      (t.exitStatus = some 2 ↔ ∃ m, CommandLine.parse args = .error (.misuse m)) ∧
      (∀ d, CommandLine.parse args = .error d → t.exitStatus = some d.status ∧ t.world = world) ∧
      ((∀ w ∈ args, ∀ v, CommandLine.pageOf? w ≠ some (.verb v)) →
        ∃ d, CommandLine.parse args = .error d) ∧
      (t.exitStatus = some 255 → ∃ r c phase k a, CommandLine.parse args = .ok r ∧
        s.Configured r.options c ∧ r.verb.phase = some phase ∧
        (s.prospect c.hook.plan world)[k]? = some a ∧ a.Fails ∧
        s.asked c.hook.plan world phase =
          (c.hook.plan.steps.take (k + 1)).map c.hook.plan.command ∧
        t.world.tools = (s.asked c.hook.plan world phase).foldl
          (fun tools command ↦ (s.executor tools command).2) world.tools) ∧
      (t.exitStatus = none → ∃ r c, CommandLine.parse args = .ok r ∧ s.Configured r.options c ∧
        s.StopsAt c.hook.plan world (·.reply.answer = .never)) := by
  intro t
  refine ⟨fun status ↦ s.exitStatus_mem args world, s.exitStatus_eq_two_iff args world,
    fun d ↦ run_of_deviation, fun hnone ↦ ?_, fun h ↦ ?_, fun h ↦ ?_⟩
  · cases hargs : CommandLine.parse args with
    | error d => exact ⟨d, rfl⟩
    | ok r =>
      obtain ⟨w, hw, hverb⟩ := CommandLine.exists_verb_of_parse hargs
      exact absurd hverb (hnone w hw r.verb)
  · obtain ⟨r, hargs⟩ := s.request_of_exitStatus args world h (by decide)
    rcases run_of_request hargs with hfew | ⟨hphase, c, hc, ⟨-, hstops⟩ | ⟨h', -⟩⟩
    · rw [h] at hfew
      exact absurd hfew (by decide)
    · obtain ⟨phase, hphase⟩ := Option.isSome_iff_exists.1 hphase
      obtain ⟨a, ha, hfails⟩ := (s.stopsAt_iff c.hook.plan world).1 hstops
      have hplan := (usable_of_configured hc).plan_steps_ne_nil
      exact ⟨r, c, phase, _, a, hargs, hc, hphase, ha, hfails, s.asked_eq world hplan phase,
        run_tools_eq hargs hc hphase⟩
    · nomatch h.symm.trans h'
  · obtain ⟨r, hargs⟩ := s.request_of_exitStatus args world h (by decide)
    rcases run_of_request hargs with hfew | ⟨-, c, hc, ⟨h', -⟩ | ⟨-, hstops⟩⟩
    · rw [h] at hfew
      exact absurd hfew (by decide)
    · nomatch h.symm.trans h'
    · exact ⟨r, c, hargs, hc, hstops⟩

/-- A verb that there is not is misuse. -/
theorem exits_two_of_unknown_verb :
    let s := failingOn ""
    let world : World (Processes Unit) := ⟨⟨(), [], ""⟩, fun _ ↦ ""⟩
    let args := [OsText.ofString "bdist-egg"]
    CommandLine.parse args = .error (.misuse (.unknownVerb "bdist-egg")) ∧
      (s.run args world).exitStatus = some 2 := by
  intro s world args
  have hargs : CommandLine.parse args = .error (.misuse (.unknownVerb "bdist-egg")) := rfl
  exact ⟨hargs, (run_of_deviation hargs).1⟩

end Surroundings

end BuildHook
