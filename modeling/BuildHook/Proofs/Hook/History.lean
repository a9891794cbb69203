import BuildHook.Proofs.Hook.Run

namespace BuildHook

namespace Hook

variable {σ : Type}

def history (hook : Hook σ) : List (World σ) → List (Episode σ (Hook σ) HookReport)
  | [] => []
  | world :: rest => hook.run world :: (hook.run world).subject.history rest

def after (hook : Hook σ) (worlds : List (World σ)) : Hook σ :=
  worlds.foldl (fun hook world ↦ (hook.run world).subject) hook

theorem after_invariant {P : Hook σ → Prop}
    (hstep : ∀ hook world, P hook → P (hook.run world).subject) {hook : Hook σ} (h : P hook)
    (worlds : List (World σ)) : P (hook.after worlds) := by
  induction worlds generalizing hook with
  | nil => exact h
  | cons world rest ih => exact ih (hstep hook world h)

theorem after_plan (hook : Hook σ) (worlds : List (World σ)) :
    (hook.after worlds).plan = hook.plan :=
  after_invariant (P := fun later ↦ later.plan = hook.plan)
    (fun later world h ↦ (later.run_plan world).trans h) rfl worlds

theorem after_name (hook : Hook σ) (worlds : List (World σ)) :
    (hook.after worlds).context.name = hook.context.name :=
  after_invariant (P := fun later ↦ later.context.name = hook.context.name)
    (fun later world h ↦ by rw [run_context, armed_name, h]) rfl worlds

theorem after_listening (hook : Hook σ) (worlds : List (World σ)) :
    (hook.after worlds).context.listening = hook.context.listening :=
  after_invariant (P := fun later ↦ later.context.listening = hook.context.listening)
    (fun later world h ↦ by rw [run_context, armed_listening, h]) rfl worlds

theorem run_of_no_steps {hook : Hook σ} (world : World σ) (hsteps : hook.plan.steps = [])
    (hready : ∀ step, hook.state ≠ .running step) :
    (hook.run world).ending = .fail (.internal "invalid hook transition: idle -> succeeded") ∧
      (hook.run world).subject.state = .idle ∧
      (hook.run world).trace = (hook.armed world).overture := by
  have hwalk : (hook.armed world).walk 0 (hook.armed world).plan.steps (hook.armed world).state
      (hook.rearm world).2.tools = ⟨.fail (.internal "invalid hook transition: idle -> succeeded"),
        .idle, (hook.rearm world).2.tools, []⟩ := by
    rw [armed_plan, hsteps, armed_state world hready]
    rfl
  rw [run_eq_runPlan world hready, runPlan_eq _ _ hwalk]
  refine ⟨rfl, rfl, ?_⟩
  rw [List.append_nil]
  exact List.append_nil _

theorem run_idle_of_no_steps {hook : Hook σ} (world : World σ) (hsteps : hook.plan.steps = [])
    (hidle : hook.state = .idle) : (hook.run world).subject.state = .idle := by
  have hready : ∀ step, hook.state ≠ .running step := by
    rw [hidle]
    exact nofun
  exact (run_of_no_steps world hsteps hready).2.1

theorem steps_ne_nil_of_terminal {hook : Hook σ} {worlds : List (World σ)}
    (hidle : hook.state = .idle) (hend : (hook.after worlds).state.isTerminal = true) :
    hook.plan.steps ≠ [] := by
  intro hsteps
  have hafter := after_invariant (P := fun later ↦ later.plan.steps = [] ∧ later.state = .idle)
    (fun later world h ↦ ⟨by rw [run_plan, h.1], run_idle_of_no_steps world h.1 h.2⟩)
    ⟨hsteps, hidle⟩ worlds
  rw [hafter.2] at hend
  nomatch hend

theorem running_or_ready (hook : Hook σ) :
    (∃ k, hook.state = .running k) ∨ ∀ step, hook.state ≠ .running step := by
  cases hook.state with
  | running step => exact .inl ⟨step, rfl⟩
  | _ => exact .inr nofun

section Blocked

variable {hook : Hook σ} {k : Nat} (hrunning : hook.state = .running k)

include hrunning

theorem rearm_of_running (world : World σ) : hook.rearm world = (hook, world) := by
  simp only [rearm, hrunning, HookState.isTerminal, Bool.false_eq_true, ↓reduceIte]

theorem run_of_running (world : World σ) :
    hook.run world =
      ⟨.fail (.build (.runInterrupted ("running step " ++ toString (k + 1)))), hook, world,
        []⟩ := by
  simp only [run, rearm_of_running hrunning, hrunning, reduceCtorEq, ↓reduceIte]
  rfl

theorem after_of_running (worlds : List (World σ)) : hook.after worlds = hook := by
  induction worlds with
  | nil => rfl
  | cons world rest ih =>
    have hsubject : (hook.run world).subject = hook := by rw [run_of_running hrunning]
    rw [after, List.foldl_cons, hsubject]
    exact ih

end Blocked

section Ready

variable {hook : Hook σ} (hplan : hook.plan.steps ≠ [])

include hplan

theorem run_dropped_or_settled (hready : ∀ step, hook.state ≠ .running step) (world : World σ) :
    ((hook.run world).ending = .pending ∧ ∃ k < hook.plan.length,
      (hook.run world).subject.state = .running k ∧
      (hook.run world).trace.asked = (hook.plan.steps.take (k + 1)).map hook.plan.command) ∨
    ((hook.run world).ending ≠ .pending ∧
      (∀ state, (hook.run world).ending ≠ .fail (.build (.runInterrupted state))) ∧
      ∀ step, (hook.run world).subject.state ≠ .running step) := by
  cases hk : (hook.prospect world)[Attempt.stop (hook.prospect world)]? with
  | none =>
    obtain ⟨hending, hstate⟩ := run_of_all_pass world hplan hready hk
    right
    rw [hending, hstate]
    exact ⟨nofun, nofun, nofun⟩
  | some a =>
    rcases run_of_stop world hplan hready hk with ⟨e, hf, hending, hstate⟩ | ⟨-, hending, hstate⟩
    · obtain ⟨command, detail, rfl⟩ := Attempt.failure_eq_stepFailed hf
      right
      rw [hending, hstate]
      exact ⟨nofun, nofun, nofun⟩
    · have hlength : Attempt.stop (hook.prospect world) < hook.plan.length := by
        have hbound := (List.getElem?_eq_some_iff.1 hk).1
        rwa [length_attempts] at hbound
      exact .inl ⟨hending, _, hlength, hstate, run_asked world hplan hready⟩

theorem after_interrupted_iff (hready : ∀ step, hook.state ≠ .running step)
    (worlds : List (World σ)) (world : World σ) :
    (∃ state, ((hook.after worlds).run world).ending = .fail (.build (.runInterrupted state))) ↔
      ∃ e ∈ hook.history worlds, e.ending = .pending := by
  -- the hook differs from call to call, but it stays ready until one of them is left
  induction worlds generalizing hook with
  | nil =>
    refine iff_of_false (fun ⟨state, hending⟩ ↦ ?_) (fun ⟨_, he, _⟩ ↦ nomatch he)
    rcases run_dropped_or_settled hplan hready world with ⟨hpending, -⟩ | ⟨-, hno, -⟩
    · exact nomatch hpending.symm.trans hending
    · exact hno state hending
  | cons first rest ih =>
    have hafter : hook.after (first :: rest) = (hook.run first).subject.after rest := rfl
    rcases run_dropped_or_settled hplan hready first with
      ⟨hpending, k, -, hstate, -⟩ | ⟨hdone, -, hready'⟩
    · refine iff_of_true ⟨"running step " ++ toString (k + 1), ?_⟩
        ⟨_, List.mem_cons_self, hpending⟩
      rw [hafter, after_of_running hstate, run_of_running hstate]
    · have hplan' : (hook.run first).subject.plan.steps ≠ [] := by rwa [run_plan]
      rw [hafter, ih hplan' hready', history]
      simp only [List.mem_cons, exists_eq_or_imp, hdone, false_or]

end Ready

/-- A call is turned away just if an earlier one was left in mid-step, and from then on every call
is: nothing is asked for or told, and the hook stays as it was left. -/
theorem interrupted_iff_dropped (plan : Plan) (executor : Executor σ) (context : HookContext)
    (hplan : plan.steps ≠ []) (worlds : List (World σ)) (world : World σ) :
    let hook : Hook σ := ⟨plan, executor, context, .idle⟩
    let call := (hook.after worlds).run world
    ((∃ state, call.ending = .fail (.build (.runInterrupted state))) ↔
        ∃ e ∈ hook.history worlds, e.ending = .pending) ∧
      (call.ending = .pending → ∃ k < plan.length, call.subject.state = .running k ∧
        call.trace.asked = (plan.steps.take (k + 1)).map plan.command ∧
        ∀ (more : List (World σ)) (next : World σ), let later := (call.subject.after more).run next
          later.ending =
              .fail (.build (.runInterrupted ("running step " ++ toString (k + 1)))) ∧
            later.trace.asked = [] ∧ later.trace.sent = [] ∧
            later.subject.state = .running k ∧
            later.subject.context.runId = call.subject.context.runId) := by
  intro hook call
  have hidle : ∀ step, hook.state ≠ .running step := fun _ h ↦ HookState.noConfusion h
  refine ⟨after_interrupted_iff hplan hidle worlds world, fun hpending ↦ ?_⟩
  -- a blocked hook answers at once, so that this call was let through
  have hready : ∀ step, (hook.after worlds).state ≠ .running step := by
    rcases (hook.after worlds).running_or_ready with ⟨k, hk⟩ | hready
    · have hending : call.ending = .fail _ := congrArg Episode.ending (run_of_running hk world)
      exact nomatch hpending.symm.trans hending
    · exact hready
  have hplan' : (hook.after worlds).plan.steps ≠ [] := by rwa [after_plan]
  rcases run_dropped_or_settled hplan' hready world with ⟨-, k, hlength, hstate, hasked⟩ | ⟨hno, -⟩
  · rw [after_plan] at hlength hasked
    refine ⟨k, hlength, hstate, hasked, fun more next ↦ ?_⟩
    rw [after_of_running hstate, run_of_running hstate]
    exact ⟨rfl, rfl, rfl, hstate, rfl⟩
  · exact absurd hpending hno

theorem blocked_of_dropped :
    let hook := ofTargets ["lib", "app"] .idle
    let failing := World.ofScript [⟨[], .ended .signaled, .zero⟩]
    let hanging := World.ofScript [⟨[], .ended (.ofCode 0), .zero⟩, ⟨[], .never, .zero⟩]
    let call := (hook.after [failing]).run hanging
    hook.plan.steps ≠ [] ∧ call.ending = .pending ∧
      ∀ (more : List (World (List Reply))) (next : World (List Reply)),
        ((call.subject.after more).run next).ending =
          .fail (.build (.runInterrupted "running step 2")) := by
  intro hook failing hanging call
  have hplan : hook.plan.steps ≠ [] := List.cons_ne_nil _ _
  obtain ⟨-, hblocked⟩ :=
    interrupted_iff_dropped hook.plan hook.executor hook.context hplan [failing] hanging
  have hpending : call.ending = .pending := rfl
  obtain ⟨k, -, hstate, -, hlater⟩ := hblocked hpending
  cases hstate
  exact ⟨hplan, hpending, fun more next ↦ (hlater more next).1⟩

end Hook

end BuildHook
