import BuildHook.Hook.Basic

namespace BuildHook

namespace HookState

def before : Nat → HookState
  | 0 => idle
  | index + 1 => running index

theorem advance_running {total index : Nat} (h : index < total) :
    (before index).advance total (running index) = .ok (running index) := by
  cases index <;> simp [advance, before, allows, h]

theorem advance_succeeded {total : Nat} (h : 0 < total) :
    (before total).advance total succeeded = .ok succeeded := by
  cases total with
  | zero => omega
  | succ last => simp [advance, before, allows]

theorem advance_failed (total index : Nat) :
    (running index).advance total (failed index) = .ok (failed index) := by
  simp [advance, allows]

end HookState

/-- A step, with what the executor replies when it is asked to run it. -/
structure Attempt where
  step : Step
  reply : Reply

namespace Attempt

def passes (a : Attempt) : Bool := a.reply.answer = .ended (.ofCode 0)

def exitCode (a : Attempt) : Option Int32 :=
  match a.reply.answer with
  | .ended status => status.exitCode
  | _ => none

def failure (a : Attempt) : Option BuildError :=
  match a.reply.answer with
  | .ended status =>
    if status.success then none else some (.exited a.step.text status.exitCode)
  | .refused e => some (Hook.refusal a.step.text e)
  | .never => none

def record (a : Attempt) : StepRecord := ⟨a.step, .ofCode 0, a.reply.elapsed⟩

/-- The first that does not pass; if every one passes, their number. -/
def stop (l : List Attempt) : Nat := l.findIdx fun a ↦ !a.passes

variable {a : Attempt} {l : List Attempt}

theorem passes_iff : a.passes = true ↔ a.reply.answer = .ended (.ofCode 0) := by
  simp [passes]

theorem stop_of_passes (h : a.passes = true) : stop (a :: l) = stop l + 1 := by
  simp [stop, List.findIdx_cons, h]

theorem stop_of_not_passes (h : a.passes = false) : stop (a :: l) = 0 := by
  simp [stop, List.findIdx_cons, h]

theorem getElem?_stop_eq_none_iff : l[stop l]? = none ↔ ∀ a ∈ l, a.passes = true := by
  rw [List.getElem?_eq_none_iff]
  have hle : stop l ≤ l.length := List.findIdx_le_length
  have hall : stop l = l.length ↔ ∀ a ∈ l, (!a.passes) = false := List.findIdx_eq_length
  simp only [Bool.not_eq_false'] at hall
  rw [← hall]
  omega

theorem getElem?_stop_eq_some_iff :
    l[stop l]? = some a ↔ a.passes = false ∧
      ∃ passed left, l = passed ++ a :: left ∧ ∀ b ∈ passed, b.passes = true := by
  rw [stop, ← List.find?_eq_getElem?_findIdx, List.find?_eq_some_iff_append]
  simp only [Bool.not_eq_true', Bool.not_eq_false']

theorem not_passes_of_failure {e : BuildError} (h : a.failure = some e) : a.passes = false := by
  cases hp : a.passes
  · rfl
  · rw [passes_iff] at hp
    simp [failure, hp, ExitStatus.success, ExitStatus.ofCode] at h

theorem not_passes_of_never (h : a.reply.answer = .never) : a.passes = false := by
  simp [passes, h]

theorem stop_of_failure {e : BuildError} (h : a.failure = some e) : stop (a :: l) = 0 :=
  stop_of_not_passes (not_passes_of_failure h)

theorem stop_of_never (h : a.reply.answer = .never) : stop (a :: l) = 0 :=
  stop_of_not_passes (not_passes_of_never h)

theorem failure_eq_none_of_never (h : a.reply.answer = .never) : a.failure = none := by
  simp [failure, h]

theorem ne_never_of_failure {e : BuildError} (h : a.failure = some e) :
    a.reply.answer ≠ .never :=
  fun hn ↦ nomatch (failure_eq_none_of_never hn).symm.trans h

theorem failure_eq_stepFailed {e : BuildError} (h : a.failure = some e) :
    ∃ command detail, e = .stepFailed command a.exitCode detail := by
  cases ha : a.reply.answer with
  | ended status =>
    simp only [failure, ha, Option.ite_none_left_eq_some, Option.some.injEq] at h
    obtain ⟨_, rfl⟩ := h
    exact ⟨_, _, by simp only [exitCode, ha, BuildError.exited]; rfl⟩
  | refused refusal =>
    simp only [failure, ha, Option.some.injEq] at h
    subst h
    simp only [exitCode, ha, Hook.refusal]
    split
    · rename_i e
      cases e <;> exact ⟨_, _, rfl⟩
    · exact ⟨_, _, rfl⟩
  | never => simp [failure, ha] at h

theorem passes_or_fails_or_hangs (a : Attempt) :
    a.passes = true ∨ (∃ e, a.failure = some e) ∨ a.reply.answer = .never := by
  cases ha : a.reply.answer with
  | ended status =>
    cases hs : status.success
    · exact .inr (.inl ⟨.exited a.step.text status.exitCode, by simp [failure, ha, hs]⟩)
    · left
      rw [passes_iff, ha]
      obtain ⟨exitCode⟩ := status
      simp only [ExitStatus.success, decide_eq_true_eq] at hs
      rw [hs, ExitStatus.ofCode]
  | refused e => exact .inr (.inl ⟨Hook.refusal a.step.text e, by simp [failure, ha]⟩)
  | never => exact .inr (.inr rfl)

end Attempt

namespace Hook

variable {σ : Type} (hook : Hook σ)

def attempt (step : Step) (tools : σ) : Attempt :=
  ⟨step, (hook.executor tools (hook.plan.command step)).1⟩

def next (step : Step) (tools : σ) : σ := (hook.executor tools (hook.plan.command step)).2

/-- What comes of the steps if all of them are attempted in order, whatever the replies. -/
def attempts : List Step → σ → List Attempt
  | [], _ => []
  | step :: rest, tools => hook.attempt step tools :: attempts rest (hook.next step tools)

abbrev prospect (world : World σ) : List Attempt :=
  hook.attempts hook.plan.steps world.tools

def opening (index : Nat) (a : Attempt) : Trace :=
  starting index a.step.text ::
    hook.context.emit (.build (.stepStarted index a.step.text)) ++
    .ask (hook.plan.command a.step) :: a.reply.actions.flatMap hook.context.reporter.perform

def passage (index : Nat) (a : Attempt) : Trace :=
  hook.opening index a ++
    hook.context.emit (.build (.stepCompleted index a.step.text 0 a.reply.elapsed))

theorem runStep_of_passes {step : Step} {tools : σ} (h : (hook.attempt step tools).passes = true)
    (index : Nat) :
    hook.runStep index step tools =
      (.ok (hook.attempt step tools).record, hook.next step tools,
        hook.passage index (hook.attempt step tools)) := by
  rw [Attempt.passes_iff] at h
  have hanswer : (hook.executor tools (hook.plan.command step)).1.answer = .ended (.ofCode 0) := h
  simp only [runStep, hanswer]
  rfl

theorem runStep_of_failure {step : Step} {tools : σ} {e : BuildError}
    (h : (hook.attempt step tools).failure = some e) (index : Nat) :
    hook.runStep index step tools =
      (.fail (.build e), hook.next step tools, hook.opening index (hook.attempt step tools)) := by
  simp only [Attempt.failure, attempt] at h
  simp only [runStep]
  cases ha : (hook.executor tools (hook.plan.command step)).1.answer with
  | ended status =>
    simp only [ha, Option.ite_none_left_eq_some, Option.some.injEq] at h
    obtain ⟨hs, rfl⟩ := h
    simp only [hs, Bool.false_eq_true, ↓reduceIte]
    rfl
  | refused refusal =>
    simp only [ha, Option.some.injEq] at h
    subst h
    rfl
  | never => simp [ha] at h

theorem runStep_of_never {step : Step} {tools : σ}
    (h : (hook.attempt step tools).reply.answer = .never) (index : Nat) :
    hook.runStep index step tools =
      (.pending, hook.next step tools, hook.opening index (hook.attempt step tools)) := by
  have hanswer : (hook.executor tools (hook.plan.command step)).1.answer = .never := h
  simp only [runStep, hanswer]
  rfl

/-- The ways through the steps from `index` on: each passes, up to one that fails or hangs. -/
inductive Walks : Nat → List Step → σ → Walk σ → Prop
  | done (index : Nat) (tools : σ) : Walks index [] tools ⟨.ok [], .succeeded, tools, []⟩
  | pass {index : Nat} {step : Step} {rest : List Step} {tools : σ} {w : Walk σ} :
      (hook.attempt step tools).passes = true →
      Walks (index + 1) rest (hook.next step tools) w →
      Walks index (step :: rest) tools
        ⟨w.ending.map ((hook.attempt step tools).record :: ·), w.state, w.tools,
          hook.passage index (hook.attempt step tools) ++ w.trace⟩
  | fail (index : Nat) {step : Step} (rest : List Step) {tools : σ} {e : BuildError} :
      (hook.attempt step tools).failure = some e →
      Walks index (step :: rest) tools
        ⟨.fail (.build e), .failed index, hook.next step tools,
          hook.opening index (hook.attempt step tools) ++
            hook.reportFailure index step (.build e)⟩
  | hang (index : Nat) {step : Step} (rest : List Step) {tools : σ} :
      (hook.attempt step tools).reply.answer = .never →
      Walks index (step :: rest) tools
        ⟨.pending, .running index, hook.next step tools,
          hook.opening index (hook.attempt step tools)⟩

variable {hook}

/-- No move of the state is refused on the way. The first steps are behind, so that the others
make up the rest of the plan. -/
theorem Walks.eq_walk {index : Nat} {steps : List Step} {tools : σ} {w : Walk σ}
    (h : hook.Walks index steps tools w) (hplan : 0 < hook.plan.length)
    (hlength : index + steps.length = hook.plan.length) :
    hook.walk index steps (.before index) tools = w := by
  induction h with
  | done index tools =>
    have hindex : index = hook.plan.length := hlength
    rw [walk, hindex, HookState.advance_succeeded hplan]
  | @pass index step rest tools w hp later ih =>
    have hlater : index + 1 + rest.length = hook.plan.length := by
      rw [← hlength, List.length_cons]
      omega
    have hindex : index < hook.plan.length := by omega
    rw [walk, HookState.advance_running hindex, hook.runStep_of_passes hp]
    dsimp only [Ending.ok]
    rw [← ih hlater]
    rfl
  | fail index rest hf =>
    have hindex : index < hook.plan.length := by rw [List.length_cons] at hlength; omega
    rw [walk, HookState.advance_running hindex, hook.runStep_of_failure hf]
    dsimp only [Ending.fail]
    rw [HookState.advance_failed]
  | hang index rest hn =>
    have hindex : index < hook.plan.length := by rw [List.length_cons] at hlength; omega
    rw [walk, HookState.advance_running hindex, hook.runStep_of_never hn]

variable (hook)

theorem exists_walks (index : Nat) (steps : List Step) (tools : σ) :
    ∃ w, hook.Walks index steps tools w := by
  induction steps generalizing index tools with
  | nil => exact ⟨_, .done index tools⟩
  | cons step rest ih =>
    rcases (hook.attempt step tools).passes_or_fails_or_hangs with hp | ⟨e, hf⟩ | hn
    · obtain ⟨w, later⟩ := ih (index + 1) (hook.next step tools)
      exact ⟨_, .pass hp later⟩
    · exact ⟨_, .fail index rest hf⟩
    · exact ⟨_, .hang index rest hn⟩

end Hook

end BuildHook
