import BuildHook.Proofs.Hook.Walk

namespace BuildHook

def World.ofScript (script : List Reply) : World (List Reply) :=
  ⟨script, fun n ↦ "run-" ++ toString (n + 1)⟩

namespace Hook

variable {σ : Type}

section Attempts

variable (hook : Hook σ)

@[simp]
theorem map_step_attempts (steps : List Step) (tools : σ) :
    (hook.attempts steps tools).map Attempt.step = steps := by
  induction steps generalizing tools with
  | nil => rfl
  | cons step rest ih => simp only [attempts, attempt, List.map_cons, ih]

@[simp]
theorem length_attempts (steps : List Step) (tools : σ) :
    (hook.attempts steps tools).length = steps.length := by
  rw [← hook.map_step_attempts steps tools, List.length_map, map_step_attempts]

theorem asked_opening (index : Nat) (a : Attempt) :
    (hook.opening index a).asked = [hook.plan.command a.step] := by
  simp [opening, starting, record, Reporter.asked_perform]

theorem asked_passage (index : Nat) (a : Attempt) :
    (hook.passage index a).asked = [hook.plan.command a.step] := by
  simp [passage, asked_opening]

theorem asked_reportFailure (index : Nat) (step : Step) (e : Error) :
    (hook.reportFailure index step e).asked = [] := by
  simp [reportFailure, record]

end Attempts

namespace Walks

variable {hook : Hook σ} {index : Nat} {steps : List Step} {tools : σ} {w : Walk σ}

theorem asked_eq (h : hook.Walks index steps tools w) :
    w.trace.asked =
      (steps.take (Attempt.stop (hook.attempts steps tools) + 1)).map hook.plan.command := by
  induction h with
  | done => rfl
  | pass hp later ih =>
    rw [attempts, Attempt.stop_of_passes hp, Trace.asked_append, asked_passage, ih]
    rfl
  | fail index rest hf =>
    rw [attempts, Attempt.stop_of_failure hf, Trace.asked_append, asked_opening,
      asked_reportFailure]
    rfl
  | hang index rest hn =>
    rw [attempts, Attempt.stop_of_never hn, asked_opening]
    rfl

theorem tools_eq (h : hook.Walks index steps tools w) :
    w.tools = w.trace.asked.foldl (fun tools c ↦ (hook.executor tools c).2) tools := by
  induction h with
  | done => rfl
  | pass hp later ih =>
    rw [Trace.asked_append, asked_passage, List.singleton_append, List.foldl_cons]
    exact ih
  | fail index rest hf =>
    rw [Trace.asked_append, asked_opening, asked_reportFailure]
    rfl
  | hang index rest hn =>
    rw [asked_opening]
    rfl

theorem of_stop_eq_none (h : hook.Walks index steps tools w)
    (hstop : (hook.attempts steps tools)[Attempt.stop (hook.attempts steps tools)]? = none) :
    w.ending = .ok ((hook.attempts steps tools).map Attempt.record) ∧ w.state = .succeeded := by
  induction h with
  | done => exact ⟨rfl, rfl⟩
  | pass hp later ih =>
    rw [attempts, Attempt.stop_of_passes hp, List.getElem?_cons_succ] at hstop
    obtain ⟨hending, hstate⟩ := ih hstop
    exact ⟨by rw [hending, Ending.map_ok, attempts, List.map_cons], hstate⟩
  | fail index rest hf =>
    rw [attempts, Attempt.stop_of_failure hf] at hstop
    simp at hstop
  | hang index rest hn =>
    rw [attempts, Attempt.stop_of_never hn] at hstop
    simp at hstop

theorem of_stop_eq_some (h : hook.Walks index steps tools w) {a : Attempt}
    (hstop : (hook.attempts steps tools)[Attempt.stop (hook.attempts steps tools)]? = some a) :
    (∃ e, a.failure = some e ∧ w.ending = .fail (.build e) ∧
      w.state = .failed (index + Attempt.stop (hook.attempts steps tools))) ∨
    (a.reply.answer = .never ∧ w.ending = .pending ∧
      w.state = .running (index + Attempt.stop (hook.attempts steps tools))) := by
  induction h with
  | done => simp [attempts] at hstop
  | @pass index step rest tools w hp later ih =>
    rw [attempts, Attempt.stop_of_passes hp] at hstop ⊢
    rw [List.getElem?_cons_succ] at hstop
    have hindex : index + (Attempt.stop (hook.attempts rest (hook.next step tools)) + 1) =
        index + 1 + Attempt.stop (hook.attempts rest (hook.next step tools)) := by omega
    rw [hindex]
    rcases ih hstop with ⟨e, hf, hending, hstate⟩ | ⟨hn, hending, hstate⟩
    · exact .inl ⟨e, hf, by rw [hending]; rfl, hstate⟩
    · exact .inr ⟨hn, by rw [hending]; rfl, hstate⟩
  | @fail index step rest tools e hf =>
    rw [attempts, Attempt.stop_of_failure hf] at hstop ⊢
    have ha : hook.attempt step tools = a := Option.some.inj hstop
    exact .inl ⟨e, ha ▸ hf, rfl, rfl⟩
  | hang index rest hn =>
    rw [attempts, Attempt.stop_of_never hn] at hstop ⊢
    exact .inr ⟨Option.some.inj hstop ▸ hn, rfl, rfl⟩

end Walks

section Call

variable (hook : Hook σ) (world : World σ)

/-- The hook as it starts its work: idle, under the run id of this call. -/
abbrev armed : Hook σ := (hook.rearm world).1

theorem armed_plan : (hook.armed world).plan = hook.plan := by
  unfold armed rearm
  split <;> rfl

theorem armed_executor : (hook.armed world).executor = hook.executor := by
  unfold armed rearm
  split <;> rfl

theorem armed_name : (hook.armed world).context.name = hook.context.name := by
  unfold armed rearm
  split <;> rfl

theorem armed_listening : (hook.armed world).context.listening = hook.context.listening := by
  unfold armed rearm
  split <;> rfl

theorem rearm_tools : (hook.rearm world).2.tools = world.tools := by
  unfold rearm
  split <;> rfl

variable {hook}

theorem armed_state (hstate : ∀ step, hook.state ≠ .running step) :
    (hook.armed world).state = .idle := by
  cases hs : hook.state with
  | idle => simp [armed, rearm, hs, HookState.isTerminal]
  | running step => exact absurd hs (hstate step)
  | failed step => simp [armed, rearm, hs, HookState.isTerminal]
  | succeeded => simp [armed, rearm, hs, HookState.isTerminal]

theorem armed_of_terminal (h : hook.state.isTerminal = true) :
    hook.armed world =
      { hook with context := { hook.context with runId := world.draw.1 }, state := .idle } := by
  simp only [armed, rearm, h, ↓reduceIte]
  rfl

theorem run_eq_runPlan (hstate : ∀ step, hook.state ≠ .running step) :
    hook.run world = (hook.armed world).runPlan (hook.rearm world).2 := by
  simp only [run, armed_state world hstate, ↓reduceIte]

variable (hook)

def overture : Trace :=
  record .info "running build hook" [("hook", .shown hook.context.name),
    ("run_id", .shown hook.context.runId), ("steps", .count hook.plan.length)] ::
  hook.context.emit (.build (.hookStarted hook.context.name hook.plan.length))

def finale (ending : Ending (List StepRecord)) : Trace :=
  match ending with
  | .done (.ok records) => hook.context.emit (.build (.hookCompleted hook.context.name
      records.length (.total (records.map StepRecord.duration))))
  | _ => []

theorem runPlan_eq {w : Walk σ}
    (hw : hook.walk 0 hook.plan.steps hook.state world.tools = w) :
    hook.runPlan world =
      ⟨w.ending.map fun records ↦
          ⟨hook.context.name, records, .total (records.map StepRecord.duration)⟩,
        { hook with state := w.state }, { world with tools := w.tools },
        hook.overture ++ w.trace ++ hook.finale w.ending⟩ := by
  unfold runPlan finale
  rw [hw]
  obtain ⟨ending, state, tools, trace⟩ := w
  cases ending with
  | ok records => rfl
  | fail e =>
    simp only [Ending.fail, List.append_nil]
    rfl
  | pending =>
    simp only [List.append_nil]
    rfl

theorem asked_overture : hook.overture.asked = [] := by
  simp [overture, record]

theorem asked_finale (ending : Ending (List StepRecord)) : (hook.finale ending).asked = [] := by
  unfold finale
  split
  · exact HookContext.asked_emit _ _
  · rfl

theorem asked_course (t : Trace) (ending : Ending (List StepRecord)) :
    Trace.asked (hook.overture ++ t ++ hook.finale ending) = t.asked := by
  rw [Trace.asked_append, Trace.asked_append, asked_overture, asked_finale, List.nil_append,
    List.append_nil]

theorem run_subject :
    (hook.run world).subject =
      { hook.armed world with state := (hook.run world).subject.state } := by
  by_cases hidle : (hook.armed world).state = .idle
  · have hrun : hook.run world = (hook.armed world).runPlan (hook.rearm world).2 := by
      simp only [run, hidle, ↓reduceIte]
    rw [hrun, runPlan_eq _ _ rfl]
  · simp only [run, hidle, ↓reduceIte]

theorem run_plan : (hook.run world).subject.plan = hook.plan := by
  rw [run_subject, armed_plan]

theorem run_context : (hook.run world).subject.context = (hook.armed world).context := by
  rw [run_subject]

variable {hook}

theorem run_of_walks (hplan : hook.plan.steps ≠ [])
    (hstate : ∀ step, hook.state ≠ .running step) {w : Walk σ}
    (h : (hook.armed world).Walks 0 hook.plan.steps world.tools w) :
    hook.run world =
      ⟨w.ending.map fun records ↦
          ⟨hook.context.name, records, .total (records.map StepRecord.duration)⟩,
        { hook.armed world with state := w.state },
        { (hook.rearm world).2 with tools := w.tools },
        (hook.armed world).overture ++ w.trace ++ (hook.armed world).finale w.ending⟩ := by
  have hlength : 0 < (hook.armed world).plan.length := by
    rw [armed_plan]
    exact List.length_pos_iff.2 hplan
  have hall : 0 + hook.plan.steps.length = (hook.armed world).plan.length := by
    rw [Nat.zero_add, armed_plan]
    rfl
  -- before the first step the hook is idle, which is where the walk sets out
  have hw : (hook.armed world).walk 0 (hook.armed world).plan.steps (hook.armed world).state
      (hook.rearm world).2.tools = w := by
    rw [armed_plan, armed_state world hstate, rearm_tools]
    exact h.eq_walk hlength hall
  rw [run_eq_runPlan world hstate, runPlan_eq _ _ hw, armed_name]

theorem exists_run_eq (hplan : hook.plan.steps ≠ [])
    (hstate : ∀ step, hook.state ≠ .running step) :
    ∃ w, (hook.armed world).Walks 0 hook.plan.steps world.tools w ∧
      hook.run world =
        ⟨w.ending.map fun records ↦
            ⟨hook.context.name, records, .total (records.map StepRecord.duration)⟩,
          { hook.armed world with state := w.state },
          { (hook.rearm world).2 with tools := w.tools },
          (hook.armed world).overture ++ w.trace ++ (hook.armed world).finale w.ending⟩ := by
  obtain ⟨w, hwalks⟩ := (hook.armed world).exists_walks 0 hook.plan.steps world.tools
  exact ⟨w, hwalks, run_of_walks world hplan hstate hwalks⟩

end Call

theorem attempts_armed (hook : Hook σ) (world : World σ) (steps : List Step) (tools : σ) :
    (hook.armed world).attempts steps tools = hook.attempts steps tools := by
  induction steps generalizing tools with
  | nil => rfl
  | cons step rest ih =>
    simp only [attempts, attempt, next, armed_plan, armed_executor]
    rw [← next, ih]

section Ready

variable {hook : Hook σ} (world : World σ) (hplan : hook.plan.steps ≠ [])
  (hstate : ∀ step, hook.state ≠ .running step)

include hplan hstate

theorem run_asked :
    (hook.run world).trace.asked =
      (hook.plan.steps.take (Attempt.stop (hook.prospect world) + 1)).map hook.plan.command := by
  obtain ⟨w, hwalks, hrun⟩ := exists_run_eq world hplan hstate
  rw [hrun, asked_course, hwalks.asked_eq, attempts_armed, armed_plan]

theorem run_tools :
    (hook.run world).world.tools =
      (hook.run world).trace.asked.foldl (fun tools c ↦ (hook.executor tools c).2)
        world.tools := by
  obtain ⟨w, hwalks, hrun⟩ := exists_run_eq world hplan hstate
  rw [hrun, asked_course, hwalks.tools_eq, armed_executor]

theorem run_of_all_pass
    (hstop : (hook.prospect world)[Attempt.stop (hook.prospect world)]? = none) :
    (hook.run world).ending = .ok ⟨hook.context.name, (hook.prospect world).map Attempt.record,
        .total ((hook.prospect world).map fun a ↦ a.reply.elapsed)⟩ ∧
      (hook.run world).subject.state = .succeeded := by
  obtain ⟨w, hwalks, hrun⟩ := exists_run_eq world hplan hstate
  rw [prospect, ← attempts_armed hook world] at hstop
  obtain ⟨hending, hstate⟩ := hwalks.of_stop_eq_none hstop
  rw [hrun, hending, Ending.map_ok, List.map_map, attempts_armed]
  exact ⟨rfl, hstate⟩

theorem run_of_stop {a : Attempt}
    (hstop : (hook.prospect world)[Attempt.stop (hook.prospect world)]? = some a) :
    (∃ e, a.failure = some e ∧ (hook.run world).ending = .fail (.build e) ∧
      (hook.run world).subject.state = .failed (Attempt.stop (hook.prospect world))) ∨
    (a.reply.answer = .never ∧ (hook.run world).ending = .pending ∧
      (hook.run world).subject.state = .running (Attempt.stop (hook.prospect world))) := by
  obtain ⟨w, hwalks, hrun⟩ := exists_run_eq world hplan hstate
  rw [prospect, ← attempts_armed hook world] at hstop ⊢
  rw [← Nat.zero_add (Attempt.stop _), hrun]
  rcases hwalks.of_stop_eq_some hstop with ⟨e, hf, hending, hstate⟩ | ⟨hn, hending, hstate⟩
  · exact .inl ⟨e, hf, by rw [hending, Ending.map_fail], hstate⟩
  · exact .inr ⟨hn, by rw [hending, Ending.map_pending], hstate⟩

end Ready

/-- What a call asks for, how it ends and where it leaves the hook, whatever the executor replies.
The step `k` is the first whose answer is not exit code zero, if there is one. -/
theorem run_spec (hook : Hook σ) (world : World σ) (hplan : hook.plan.steps ≠ [])
    (hstate : ∀ step, hook.state ≠ .running step) :
    let attempts := hook.attempts hook.plan.steps world.tools
    let k := Attempt.stop attempts
    let e := hook.run world
    e.trace.asked = (hook.plan.steps.take (k + 1)).map
        (fun s ↦ ⟨s.tool, [s.target], hook.plan.workingDir⟩) ∧
      e.world.tools = e.trace.asked.foldl (fun tools c ↦ (hook.executor tools c).2) world.tools ∧
      ((∃ report, e.ending = .ok report) ↔
        ∀ a ∈ attempts, a.reply.answer = .ended (.ofCode 0)) ∧
      match attempts[k]? with
      | none => ∃ report, e.ending = .ok report ∧
          report.records.map StepRecord.step = hook.plan.steps ∧
          (∀ r ∈ report.records, r.status.exitCode = some 0) ∧ e.subject.state = .succeeded
      | some a =>
        (a.reply.answer = .never → e.ending = .pending ∧ e.subject.state = .running k) ∧
        (a.reply.answer ≠ .never → ∃ command detail,
          e.ending = .fail (.build (.stepFailed command a.exitCode detail)) ∧
          e.subject.state = .failed k) := by
  intro attempts k e
  refine ⟨run_asked world hplan hstate, run_tools world hplan hstate, ?_⟩
  have hall : attempts[k]? = none ↔ ∀ a ∈ attempts, a.reply.answer = .ended (.ofCode 0) := by
    simpa only [Attempt.passes_iff] using Attempt.getElem?_stop_eq_none_iff (l := attempts)
  rw [← hall]
  cases hk : attempts[k]? with
  | none =>
    obtain ⟨hending, hstate⟩ := run_of_all_pass world hplan hstate hk
    refine ⟨⟨fun _ ↦ rfl, fun _ ↦ ⟨_, hending⟩⟩, _, hending, ?_, ?_, hstate⟩
    · rw [List.map_map]
      exact hook.map_step_attempts _ _
    · intro r hr
      obtain ⟨a, -, rfl⟩ := List.mem_map.1 hr
      rfl
  | some a =>
    rcases run_of_stop world hplan hstate hk with ⟨err, hf, hending, hstate⟩ | ⟨hn, hending, hstate⟩
    · obtain ⟨command, detail, rfl⟩ := Attempt.failure_eq_stepFailed hf
      refine ⟨iff_of_false (fun ⟨_, hok⟩ ↦ ?_) nofun, fun hn ↦ ?_, fun _ ↦ ?_⟩
      · exact nomatch hending.symm.trans hok
      · exact absurd hn (Attempt.ne_never_of_failure hf)
      · exact ⟨command, detail, hending, hstate⟩
    · refine ⟨iff_of_false (fun ⟨_, hok⟩ ↦ ?_) nofun, fun _ ↦ ?_, fun hne ↦ ?_⟩
      · exact nomatch hending.symm.trans hok
      · exact ⟨hending, hstate⟩
      · exact absurd hn hne

/-- A hook over these targets. Its executor gives the replies of a script, one after the other, and
then goes on as if all were well. -/
def ofTargets (targets : List String) (state : HookState) : Hook (List Reply) :=
  ⟨⟨targets.map (Step.mk "make"), none⟩,
    fun script _ ↦ (script.headD ⟨[], .ended (.ofCode 0), .zero⟩, script.tail),
    ⟨commandName, "run-0", true⟩, state⟩

theorem run_spec_refused :
    let hook := ofTargets ["lib", "app", "doc"] (.failed 2)
    let world := World.ofScript [⟨[], .ended (.ofCode 0), .zero⟩,
      ⟨[], .refused (.platform (.commandNotFound "make")), .zero⟩]
    hook.plan.steps ≠ [] ∧ (∀ step, hook.state ≠ .running step) ∧
      (hook.run world).trace.asked = [⟨"make", ["lib"], none⟩, ⟨"make", ["app"], none⟩] ∧
      (∃ command detail,
        (hook.run world).ending = .fail (.build (.stepFailed command none detail))) ∧
      (hook.run world).subject.state = .failed 1 := by
  intro hook world
  have hplan : hook.plan.steps ≠ [] := List.cons_ne_nil _ _
  have hready : ∀ step, hook.state ≠ .running step := fun _ h ↦ HookState.noConfusion h
  obtain ⟨hasked, -, -, -, hfailed⟩ := run_spec hook world hplan hready
  obtain ⟨command, detail, hending, hstate⟩ := hfailed nofun
  exact ⟨hplan, hready, hasked, ⟨command, detail, hending⟩, hstate⟩

end Hook

end BuildHook
