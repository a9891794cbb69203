import BuildHook.Proofs.Hook.Closing
import BuildHook.Proofs.Program.Printed
import BuildHook.Proofs.Program.Shown

namespace BuildHook

namespace Notice

def reports (l : List Notice) : List Abort := l.filterMap fun
  | .report a => some a
  | _ => none

theorem reports_append (l l' : List Notice) : reports (l ++ l') = reports l ++ reports l' :=
  List.filterMap_append

theorem reports_visible (l : List Notice) : reports (visible l) = reports l := by
  rw [visible, reports, List.filterMap_filter]
  refine List.filterMap_congr fun n _ ↦ ?_
  cases n <;> rfl

theorem reports_map_log (l : List LogRecord) : reports (l.map .log) = [] := by
  rw [← reports_visible, visible_map_log]
  rfl

theorem reports_ofTurns (messageId : Nat → String) (d : StatusDisplay) (n : Nat)
    (turns : List Turn) : reports (ofTurns messageId d n turns) = [] := by
  rw [← reports_visible, visible_ofTurns, reports, List.filterMap_map]
  exact List.filterMap_eq_nil_iff.2 fun _ _ ↦ rfl

theorem texts_append_report (l : Logging) (clock : Nat → String) (before : List Notice)
    (a : Abort) :
    texts l clock (before ++ [.report a]) =
      texts l clock before ++ ("Error: " ++ a.report ++ "\n") := by
  rw [texts, texts, List.zipIdx_append, List.map_append, String.join_append]
  refine congrArg (_ ++ ·) ?_
  simp only [List.zipIdx_cons, List.zipIdx_nil, List.map_cons, List.map_nil, text]
  rfl

end Notice

theorem Hook.sent_of_fail {σ : Type} {hook : Hook σ} {world : World σ}
    (hplan : hook.plan.steps ≠ []) (hready : ∀ step, hook.state ≠ .running step)
    (hlisten : hook.context.listening = true) {e : Error}
    (h : (hook.run world).ending = .fail e) :
    ∃ before id, (hook.run world).trace.sent =
        before ++ [.of (.build (.hookFailed hook.context.name e.failure)) id] ∧
      (hook.executor.Unobtrusive →
        ∀ m ∈ before, ∀ name failure, m.event ≠ .build (.hookFailed name failure)) := by
  cases hstop : (hook.prospect world)[Attempt.stop (hook.prospect world)]? with
  | none => nomatch (run_of_all_pass world hplan hready hstop).1.symm.trans h
  | some a =>
    rcases run_of_stop world hplan hready hstop with ⟨err, hf, hending, -⟩ | ⟨-, hending, -⟩
    · obtain rfl : Error.build err = e := by
        rw [hending] at h
        cases h
        rfl
      obtain ⟨between, hsent, hbetween⟩ := sent_of_failure world hready hlisten hplan hstop hf
      refine ⟨_, _, hsent, fun hquiet m hm name failure hevent ↦ ?_⟩
      rcases List.mem_cons.1 hm with rfl | hm
      · cases hevent
      · have hframes : m.event.frames = true := by
          rw [hevent]
          rfl
        -- only the executor could have told of another failure
        obtain ⟨b, hb, hmem⟩ := hbetween m hm hframes
        obtain ⟨remark, hremark⟩ := unobtrusive_of_mem_attempts hquiet hb m.event hmem
        cases hremark.symm.trans hevent
    · nomatch hending.symm.trans h

namespace Surroundings

variable {σ : Type} (s : Surroundings σ) (r : Request) (world : World σ)

section Cases

variable {s} {r} {world} {c : Config}

theorem reports_work (hc : c.Usable) : Notice.reports (s.work r c world).2.2 = [] := by
  cases hphase : r.verb.phase with
  | none =>
    rw [work_of_inquiry world hphase hc]
    rfl
  | some phase =>
    rw [work_eq_runPhase world hphase hc, runPhase]
    dsimp only
    rw [Notice.reports_append, Notice.ofLogs, Notice.reports_map_log, Notice.reports_ofTurns]
    rfl

theorem conclusion_of_fail {phase : Phase} {e : Error} (hc : s.Configured r.options c)
    (hphase : r.verb.phase = some phase)
    (h : ((s.hook c.hook.plan world).run world.draw.2).ending = .fail e) :
    (s.perform r world).conclusion = .abort (.work e) := by
  obtain ⟨hending, -⟩ := work_of_phase world hphase (usable_of_configured hc)
  rw [(perform_of_configured world hc).1, hending, h]
  rfl

theorem sent_of_fail {p : Plan} {e : Error} (hplan : p.steps ≠ [])
    (h : ((s.hook p world).run world.draw.2).ending = .fail e) (phase : Phase) :
    ∃ before id, s.sent p world phase =
        before ++ [.of (.build (.hookFailed Phase.buildCommand e.failure)) id] ∧
      (s.executor.Unobtrusive →
        ∀ m ∈ before, ∀ name failure, m.event ≠ .build (.hookFailed name failure)) := by
  rw [sent_eq, h, Phase.closing_fail, Trace.sent_nil, List.append_nil]
  exact Hook.sent_of_fail hplan (s.hook_ready p world) rfl h

end Cases

theorem exists_notices :
    ∃ before, (s.perform r world).notices =
        before ++ (s.perform r world).conclusion.notices ∧ Notice.reports before = [] := by
  by_cases hconfigured : ∃ c, s.Configured r.options c
  · obtain ⟨c, hc⟩ := hconfigured
    rw [perform_eq_of_configured world hc]
    refine ⟨_, rfl, ?_⟩
    rw [Notice.reports_append, reports_work (usable_of_configured hc), List.append_nil]
    exact Notice.reports_map_log _
  · obtain ⟨e, hsettings, -⟩ := settings_of_not_configured (not_exists.1 hconfigured)
    rw [perform_eq_of_error world hsettings]
    exact ⟨_, rfl, Notice.reports_map_log _⟩

/-- A result is printed just if the run succeeds or the check misses the tool, and then nothing else
is. If there is a status other than zero, one error is reported, after all else, and it is the one
that ended the run; a phase that fails has told of the same error. -/
theorem output_once (s : Surroundings σ) {args : List OsText} {r : Request}
    (hargs : CommandLine.parse args = .ok r) (world : World σ) :
    let t := s.run args world
    let logging := Logging.choose s.logFilter r.options
    let notices := (s.perform r world).notices
    (t.exitStatus = some 0 ∨ s.Lacks r → t.stdout ≠ "" ∧
      ∃ c o, s.Configured r.options c ∧ s.Attains r c world o ∧
        o.WrittenAs r.options.json t.stdout) ∧
    (t.exitStatus ≠ some 0 ∧ ¬ s.Lacks r → t.stdout = "") ∧
    (s.Lacks r → t.exitStatus = some 1) ∧
    Notice.WriteAll logging notices t.stderr ∧
    (t.exitStatus = some 0 ∨ t.exitStatus = none → Notice.reports notices = []) ∧
    (∀ status, t.exitStatus = some status → status ≠ 0 → ∃ before earlier a,
      s.EndedBy r world a ∧ notices = before ++ [.report a] ∧ Notice.reports before = [] ∧
      Notice.WriteAll logging before earlier ∧
      t.stderr = earlier ++ ("Error: " ++ (match a with
        | .work e => e.failure.message ++ ((e.failure.code.map ("\n  Code: " ++ ·)).getD "") ++
            ((e.failure.hint.map ("\n  Hint: " ++ ·)).getD "")
        | .output fault => "I/O error: " ++ fault.message) ++ "\n")) ∧
    ∀ c phase e, s.Configured r.options c → r.verb.phase = some phase →
      ((s.hook c.hook.plan world).run world.draw.2).ending = .fail e →
      Notice.reports notices = [.work e] ∧ ∃ before id,
        s.sent c.hook.plan world phase =
          before ++ [.of (.build (.hookFailed "build_ext" e.failure)) id] ∧
        (s.executor.Unobtrusive →
          ∀ m ∈ before, ∀ name failure, m.event ≠ .build (.hookFailed name failure)) := by
  intro t logging notices
  have hrun : t = _ := s.run_eq_perform world hargs
  obtain ⟨before, hnotices, hbefore⟩ := s.exists_notices r world
  have hreports : Notice.reports notices =
      Notice.reports (s.perform r world).conclusion.notices := by
    simp only [notices]
    rw [hnotices, Notice.reports_append, hbefore, List.nil_append]
  have hconcludes := s.concludes_perform r world
  have hstderr : Notice.WriteAll logging notices t.stderr := s.writeAll_stderr hargs world
  rw [hrun] at hstderr ⊢
  refine ⟨fun hresult ↦ ?_, fun hnone ↦ ?_, hconcludes.exitStatus_of_lacks, hstderr,
    fun hquiet ↦ ?_, fun status hstatus hne ↦ ?_, fun c phase e hc hphase hfail ↦ ?_⟩
  · obtain ⟨text, hprinted, c, o, hc, ho, hrender⟩ := hconcludes.exists_result hresult
    have hwritten := Outcome.writtenAs_of_render hrender
    dsimp only
    rw [hprinted]
    exact ⟨hwritten.ne_empty, c, o, hc, ho, hwritten⟩
  · obtain ⟨hstatus, hlacks⟩ := hnone
    dsimp only
    rw [hconcludes.printed_eq_none hstatus hlacks]
    rfl
  · rw [hreports, Conclusion.notices_eq_nil hquiet]
    rfl
  · obtain ⟨a, ha⟩ := Conclusion.eq_abort hstatus hne
    rw [ha] at hnotices
    refine ⟨before, _, a, hconcludes.endedBy ha, hnotices, hbefore,
      Notice.writeAll_texts logging s.clock before, ?_⟩
    dsimp only [notices]
    rw [hnotices]
    exact Notice.texts_append_report _ _ before a
  · rw [hreports, conclusion_of_fail hc hphase hfail]
    exact ⟨rfl, sent_of_fail (usable_of_configured hc).plan_steps_ne_nil hfail phase⟩

/-- The report of the failed build and the last of its messages say the same; the check prints where
the tool is. -/
theorem output_once_of_failing_target :
    let s := failingOn "compiler"
    let world : World (Processes Unit) := ⟨⟨(), [], ""⟩, fun _ ↦ ""⟩
    let args := [OsText.ofString "install", OsText.ofString "--json"]
    let e := BuildError.stepFailed "make compiler" (some 2) "exited with status 2"
    let t := s.run args world
    CommandLine.parse args = .ok ⟨.install, ⟨true, false, none⟩⟩ ∧
      t.exitStatus = some 255 ∧ t.stdout = "" ∧
      (∃ before, t.stderr = before ++
        ("Error: " ++ ("build step `make compiler` failed: exited with status 2" ++
          "\n  Code: build.step_failed" ++
          "\n  Hint: See the build tool output above for the cause of the failure.") ++ "\n")) ∧
      (∃ before id, s.sent Config.default.hook.plan world .install =
        before ++ [.of (.build (.hookFailed "build_ext" e.failure)) id]) ∧
      (s.run [OsText.ofString "check"] world).stdout = "[OK] make found at /bin/make" ++ "\n" := by
  intro s world args e t
  have hargs : CommandLine.parse args = .ok ⟨.install, ⟨true, false, none⟩⟩ := rfl
  have hc : s.Configured ⟨true, false, none⟩ .default := configured_failingOn "compiler" rfl
  have hfail : ((s.hook Config.default.hook.plan world).run world.draw.2).ending =
      .fail (.build e) := by
    have hplan : Config.default.hook.plan.steps ≠ [] := List.cons_ne_nil _ _
    let attempts := s.prospect Config.default.hook.plan world
    have hbind : (attempts[Attempt.stop attempts]?).bind Attempt.failure = some e := by
      decide +kernel
    obtain ⟨a, hstop, hfailure⟩ := Option.bind_eq_some_iff.1 hbind
    rcases Hook.run_of_stop world.draw.2 hplan (s.hook_ready _ world) hstop with
      ⟨err, hf, hending, -⟩ | ⟨hn, -⟩
    · rw [hending, Option.some.inj (hf.symm.trans hfailure)]
    · exact absurd hn (Attempt.ne_never_of_failure hfailure)
  have hstatus : t.exitStatus = some 255 := by
    rw [(run_of_phase world hargs hc rfl).1, hfail]
    rfl
  obtain ⟨-, hnothing, -, -, -, hreport, hphase⟩ := s.output_once hargs world
  obtain ⟨hreports, hsent⟩ := hphase _ _ _ hc rfl hfail
  obtain ⟨before, earlier, a, -, hnotices, hbefore, -, hstderr⟩ := hreport 255 hstatus (by decide)
  obtain rfl : a = .work (.build e) := by
    rw [hnotices, Notice.reports_append, hbefore] at hreports
    exact (List.cons.inj hreports).1
  have hlacks : ¬ s.Lacks ⟨.install, ⟨true, false, none⟩⟩ := not_lacks_of_phase rfl
  have hcheck : (s.run [OsText.ofString "check"] world).stdout =
      "[OK] make found at /bin/make" ++ "\n" := by
    have hargs : CommandLine.parse [OsText.ofString "check"] =
        .ok ⟨.check, ⟨false, false, none⟩⟩ := rfl
    have hc : s.Configured ⟨false, false, none⟩ .default := configured_failingOn "compiler" rfl
    have hstatus : (s.run [OsText.ofString "check"] world).exitStatus = some 0 := by
      rw [(run_of_inquiry hargs rfl hc world).1]
      decide +kernel
    have hwhich : s.which "make" = some (OsText.ofString "/bin/make") := by decide +kernel
    obtain ⟨-, c, o, hconfigured, ho, text, htext, hshown⟩ :=
      (s.output_once hargs world).1 (.inl hstatus)
    obtain rfl := configured_unique hc hconfigured
    obtain rfl := (attains_check_iff rfl).1 ho
    have htool : s.which Config.default.hook.tool = some (OsText.ofString "/bin/make") := hwhich
    rw [htool] at hshown
    rw [htext, show text = _ from hshown]
    decide +kernel
  refine ⟨hargs, hstatus, hnothing ⟨?_, hlacks⟩, ⟨_, hstderr⟩,
    hsent.imp fun _ ⟨id, h, _⟩ ↦ ⟨id, h⟩, hcheck⟩
  rw [hstatus]
  decide

end Surroundings

end BuildHook
