import BuildHook.Proofs.Hook.History

namespace BuildHook

namespace HookState

def within (total : Nat) : HookState → Bool
  | running step => step < total
  | failed step => step < total
  | _ => true

def enter? (total : Nat) (state next : HookState) : Option HookState :=
  if state.allows total next && next.within total then some next else none

theorem enter?_of_advance {total : Nat} {state next : HookState}
    (h : state.advance total next = .ok next) (hwithin : next.within total = true) :
    state.enter? total next = some next := by
  have hallows : state.allows total next = true := by
    unfold advance at h
    split at h
    · assumption
    · nomatch h
  rw [enter?, hallows, hwithin]
  rfl

variable {total : Nat}

theorem enter?_running {index : Nat} (h : index < total) :
    (before index).enter? total (running index) = some (running index) :=
  enter?_of_advance (advance_running h) (decide_eq_true h)

theorem enter?_succeeded (h : 0 < total) :
    (before total).enter? total succeeded = some succeeded :=
  enter?_of_advance (advance_succeeded h) rfl

theorem enter?_failed {index : Nat} (h : index < total) :
    (running index).enter? total (failed index) = some (failed index) :=
  enter?_of_advance (advance_failed total index) (decide_eq_true h)

end HookState

namespace Hook

variable {σ : Type}

/-- The walk by positions: `left` steps from `index` on. -/
def guardedWalk (hook : Hook σ) : Nat → Nat → HookState → σ → Option (Walk σ)
  | 0, _, state, tools => do
    let state ← state.enter? hook.plan.length .succeeded
    return ⟨.ok [], state, tools, []⟩
  | left + 1, index, state, tools => do
    let state ← state.enter? hook.plan.length (.running index)
    let step ← hook.plan.steps[index]?
    match hook.runStep index step tools with
    | (.pending, tools, trace) => return ⟨.pending, state, tools, trace⟩
    | (.done (.ok r), tools, trace) =>
      let later ← hook.guardedWalk left (index + 1) state tools
      return ⟨later.ending.map (r :: ·), later.state, later.tools, trace ++ later.trace⟩
    | (.done (.error e), tools, trace) =>
      let state ← state.enter? hook.plan.length (.failed index)
      -- the steps that are skipped are counted as what is left of the plan after this one
      if hook.plan.length < index + 1 then none
      else return ⟨.fail e, state, tools, trace ++ hook.reportFailure index step e⟩

def guardedRun (hook : Hook σ) (world : World σ) : Option (Episode σ (Hook σ) HookReport) := do
  let (hook, world) := hook.rearm world
  if hook.state = .idle then
    let w ← hook.guardedWalk hook.plan.length 0 hook.state world.tools
    return ⟨w.ending.map fun records ↦
        ⟨hook.context.name, records, .total (records.map StepRecord.duration)⟩,
      { hook with state := w.state }, { world with tools := w.tools },
      hook.overture ++ w.trace ++ hook.finale w.ending⟩
  else return ⟨.fail (.build (.runInterrupted hook.state.text)), hook, world, []⟩

variable {hook : Hook σ}

theorem getElem?_of_drop_eq_cons {index : Nat} {step : Step} {rest : List Step}
    (h : hook.plan.steps.drop index = step :: rest) :
    hook.plan.steps[index]? = some step ∧ index < hook.plan.length ∧
      hook.plan.steps.drop (index + 1) = rest := by
  have hstep : hook.plan.steps[index]? = some step := by
    rw [← List.head?_drop, h]
    rfl
  have hrest : hook.plan.steps.drop (index + 1) = rest := by
    rw [← List.tail_drop, h]
    rfl
  exact ⟨hstep, (List.getElem?_eq_some_iff.1 hstep).1, hrest⟩

theorem Walks.eq_guardedWalk {index : Nat} {steps : List Step} {tools : σ} {w : Walk σ}
    (h : hook.Walks index steps tools w) (hplan : 0 < hook.plan.length)
    (hindex : index ≤ hook.plan.length) (hsteps : hook.plan.steps.drop index = steps) :
    hook.guardedWalk steps.length index (.before index) tools = some w := by
  induction h with
  | done index tools =>
    have hend : index = hook.plan.length := Nat.le_antisymm hindex (List.drop_eq_nil_iff.1 hsteps)
    rw [List.length_nil, guardedWalk, hend, HookState.enter?_succeeded hplan]
    rfl
  | @pass index step rest tools w hp later ih =>
    obtain ⟨hstep, hlt, hrest⟩ := getElem?_of_drop_eq_cons hsteps
    rw [List.length_cons, guardedWalk, HookState.enter?_running hlt, hstep]
    dsimp only [Option.bind_eq_bind, Option.bind_some]
    rw [hook.runStep_of_passes hp]
    have hlater : hook.guardedWalk rest.length (index + 1) (.running index)
        (hook.next step tools) = some w := ih hlt hrest
    dsimp only [Ending.ok]
    rw [hlater]
    rfl
  | @fail index step rest tools e hf =>
    obtain ⟨hstep, hlt, -⟩ := getElem?_of_drop_eq_cons hsteps
    rw [List.length_cons, guardedWalk, HookState.enter?_running hlt, hstep]
    dsimp only [Option.bind_eq_bind, Option.bind_some]
    rw [hook.runStep_of_failure hf]
    dsimp only [Ending.fail]
    rw [HookState.enter?_failed hlt]
    have hskipped : ¬ hook.plan.length < index + 1 := Nat.not_lt.2 hlt
    dsimp only [Option.bind_some]
    rw [if_neg hskipped]
    rfl
  | @hang index step rest tools hn =>
    obtain ⟨hstep, hlt, -⟩ := getElem?_of_drop_eq_cons hsteps
    rw [List.length_cons, guardedWalk, HookState.enter?_running hlt, hstep]
    dsimp only [Option.bind_eq_bind, Option.bind_some]
    rw [hook.runStep_of_never hn]
    rfl

variable (hplan : hook.plan.steps ≠ [])

include hplan

theorem guardedRun_eq (world : World σ) : hook.guardedRun world = some (hook.run world) := by
  rcases hook.running_or_ready with ⟨k, hk⟩ | hready
  · rw [run_of_running hk]
    simp only [guardedRun, rearm_of_running hk, hk, reduceCtorEq, ↓reduceIte]
    rfl
  · obtain ⟨w, hwalks, hrun⟩ := exists_run_eq world hplan hready
    have hlength : 0 < (hook.armed world).plan.length := by
      rw [armed_plan]
      exact List.length_pos_iff.2 hplan
    have hw : (hook.armed world).guardedWalk (hook.armed world).plan.length 0 .idle world.tools =
        some w := by
      rw [← armed_plan hook world] at hwalks
      exact hwalks.eq_guardedWalk hlength (Nat.zero_le _) rfl
    rw [hrun]
    simp only [guardedRun, armed_state world hready, rearm_tools, hw, ↓reduceIte, armed_name]
    rfl

theorem run_cases (world : World σ) :
    (∃ k, (hook.run world).ending =
        .fail (.build (.runInterrupted ("running step " ++ toString (k + 1)))) ∧
      hook.state = .running k ∧ (hook.run world).subject.state = .running k) ∨
    (∃ report, (hook.run world).ending = .ok report ∧
      (hook.run world).subject.state = .succeeded) ∨
    (∃ k < hook.plan.length, ∃ command exitCode detail, (hook.run world).ending =
        .fail (.build (.stepFailed command exitCode detail)) ∧
      (hook.run world).subject.state = .failed k) ∨
    ∃ k < hook.plan.length, (hook.run world).ending = .pending ∧
      (hook.run world).subject.state = .running k := by
  rcases hook.running_or_ready with ⟨k, hk⟩ | hready
  · rw [run_of_running hk]
    exact .inl ⟨k, rfl, hk, hk⟩
  right
  cases hstop : (hook.prospect world)[Attempt.stop (hook.prospect world)]? with
  | none =>
    obtain ⟨hending, hstate⟩ := run_of_all_pass world hplan hready hstop
    exact .inl ⟨_, hending, hstate⟩
  | some a =>
    have hlength : Attempt.stop (hook.prospect world) < hook.plan.length := by
      have hbound := (List.getElem?_eq_some_iff.1 hstop).1
      rwa [length_attempts] at hbound
    right
    rcases run_of_stop world hplan hready hstop with ⟨e, hf, hending, hstate⟩ | ⟨-, hending, hstate⟩
    · obtain ⟨command, detail, rfl⟩ := Attempt.failure_eq_stepFailed hf
      exact .inl ⟨_, hlength, command, _, detail, hending, hstate⟩
    · exact .inr ⟨_, hlength, hending, hstate⟩

theorem within_run (hwithin : hook.state.within hook.plan.length = true) (world : World σ) :
    (hook.run world).subject.state.within hook.plan.length = true := by
  rcases run_cases hplan world with ⟨k, -, hbefore, hstate⟩ | ⟨_, -, hstate⟩ |
    ⟨k, hk, _, _, _, -, hstate⟩ | ⟨k, hk, -, hstate⟩
  · rw [hstate, ← hbefore]
    exact hwithin
  · rw [hstate]
    rfl
  · rw [hstate]
    exact decide_eq_true hk
  · rw [hstate]
    exact decide_eq_true hk

theorem run_fail {world : World σ} {e : Error} (h : (hook.run world).ending = .fail e) :
    (∃ command exitCode detail, e = .build (.stepFailed command exitCode detail)) ∨
      ∃ state, e = .build (.runInterrupted state) := by
  rcases run_cases hplan world with ⟨k, hending, -⟩ | ⟨_, hending, -⟩ |
    ⟨k, -, command, exitCode, detail, hending, -⟩ | ⟨k, -, hending, -⟩
  · cases h.symm.trans hending
    exact .inr ⟨_, rfl⟩
  · nomatch h.symm.trans hending
  · cases h.symm.trans hending
    exact .inl ⟨command, exitCode, detail, rfl⟩
  · nomatch h.symm.trans hending

theorem after_within (hidle : hook.state = .idle) (worlds : List (World σ)) :
    (hook.after worlds).state.within hook.plan.length = true := by
  have hstep (later : Hook σ) (world : World σ)
      (h : later.plan = hook.plan ∧ later.state.within hook.plan.length = true) :
      (later.run world).subject.plan = hook.plan ∧
        (later.run world).subject.state.within hook.plan.length = true := by
    obtain ⟨hkept, hwithin⟩ := h
    rw [← hkept] at hplan hwithin ⊢
    exact ⟨later.run_plan world, within_run hplan hwithin world⟩
  have hstart : hook.state.within hook.plan.length = true := by
    rw [hidle]
    rfl
  exact (after_invariant (P := fun later ↦ later.plan = hook.plan ∧
    later.state.within hook.plan.length = true) hstep ⟨rfl, hstart⟩ worlds).2

omit hplan

/-- No call stops short, whatever was called before and whatever the executor replies: no move is
refused, no position is outside of the plan, nothing falls below zero. So a call fails only by a
step or because an earlier one was left, and the hook never stands at a step that is not there. -/
theorem run_safe (plan : Plan) (executor : Executor σ) (context : HookContext)
    (hplan : plan.steps ≠ []) (worlds : List (World σ)) (world : World σ) :
    let hook := (⟨plan, executor, context, .idle⟩ : Hook σ).after worlds
    let call := hook.run world
    hook.guardedRun world = some call ∧
      (∀ message, call.ending ≠ .fail (.internal message)) ∧
      (∀ e, call.ending = .fail e →
        (∃ command exitCode detail, e = .build (.stepFailed command exitCode detail)) ∨
          ∃ state, e = .build (.runInterrupted state)) ∧
      ∀ step, hook.state = .running step ∨ hook.state = .failed step → step < plan.length := by
  intro hook call
  have hsteps : hook.plan.steps ≠ [] := by rwa [after_plan]
  refine ⟨guardedRun_eq hsteps world, fun message h ↦ ?_, fun e h ↦ run_fail hsteps h,
    fun step h ↦ ?_⟩
  · rcases run_fail hsteps h with ⟨_, _, _, he⟩ | ⟨_, he⟩
    · nomatch he
    · nomatch he
  · have hwithin : hook.state.within plan.length = true := after_within hplan rfl worlds
    rcases h with h | h
    all_goals
      rw [h] at hwithin
      exact of_decide_eq_true hwithin

theorem run_safe_after_drop :
    let fresh := ofTargets ["lib", "app"] .idle
    let failing := World.ofScript [⟨[], .ended .signaled, .zero⟩]
    let hanging := World.ofScript [⟨[], .ended (.ofCode 0), .zero⟩, ⟨[], .never, .zero⟩]
    let hook := fresh.after [failing, hanging]
    fresh.plan.steps ≠ [] ∧ hook.state = .running 1 ∧ 1 < fresh.plan.length ∧
      ∀ world, hook.guardedRun world = some (hook.run world) := by
  intro fresh failing hanging hook
  have hplan : fresh.plan.steps ≠ [] := List.cons_ne_nil _ _
  have hsafe := run_safe fresh.plan fresh.executor fresh.context hplan [failing, hanging]
  have hstate : hook.state = .running 1 := rfl
  obtain ⟨-, -, -, hstep⟩ := hsafe failing
  exact ⟨hplan, hstate, hstep 1 (.inl hstate), fun world ↦ (hsafe world).1⟩

end Hook

end BuildHook
