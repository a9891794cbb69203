import BuildHook.Process.System
import BuildHook.Proofs.Hook.Stream

namespace BuildHook

def PlatformError.command : PlatformError → String
  | .executionFailed command _ => command
  | .commandNotFound command => command

namespace Attempt

variable {a : Attempt}

def blamed (a : Attempt) : String :=
  match a.reply.answer with
  | .refused (.platform refusal) => refusal.command
  | _ => a.step.text

theorem failure_eq_blamed {e : BuildError} (h : a.failure = some e) :
    ∃ detail, e = .stepFailed a.blamed a.exitCode detail := by
  cases ha : a.reply.answer with
  | ended status =>
    simp only [failure, ha, Option.ite_none_left_eq_some, Option.some.injEq] at h
    obtain ⟨-, rfl⟩ := h
    simp only [blamed, exitCode, ha]
    exact ⟨_, rfl⟩
  | refused refusal =>
    simp only [failure, ha, Option.some.injEq] at h
    subst h
    simp only [blamed, exitCode, ha]
    cases refusal with
    | platform refusal => cases refusal <;> exact ⟨_, rfl⟩
    | _ => exact ⟨_, rfl⟩
  | never => simp [failure, ha] at h

theorem blamed_eq_iff :
    a.blamed = a.step.text ↔
      ∀ refusal, a.reply.answer = .refused (.platform refusal) → refusal.command = a.step.text := by
  unfold blamed
  split
  case h_1 refusal ha =>
    rw [ha]
    constructor
    · rintro h other hother
      cases hother
      exact h
    · exact fun h ↦ h refusal rfl
  case h_2 ha => exact iff_of_true rfl fun refusal hrefusal ↦ absurd hrefusal (ha refusal)

end Attempt

namespace Hook

variable {σ : Type}

/-- A step that fails is named when it starts and when it has failed. Its error names it unless the
executor could not start a command that it calls otherwise. -/
theorem blames_step (hook : Hook σ) (world : World σ) (hplan : hook.plan.steps ≠ [])
    (hstate : ∀ step, hook.state ≠ .running step) (hlisten : hook.context.listening = true) :
    let attempts := hook.attempts hook.plan.steps world.tools
    let k := Attempt.stop attempts
    let e := hook.run world
    let tell := fun event ↦ Message.of event (some e.subject.context.runId)
    ∀ a, attempts[k]? = some a → a.reply.answer ≠ .never →
      hook.plan.steps[k]? = some a.step ∧
      ∃ command detail before,
        let error := Error.build (.stepFailed command a.exitCode detail)
        e.ending = .fail error ∧
        e.trace.sent = before ++ (tell (.build (.stepStarted k a.step.text)) ::
          (Action.events a.reply.actions).map tell) ++
          [tell (.build (.stepFailed k a.step.text a.exitCode (hook.plan.length - k - 1)
            error.failure)), tell (.build (.hookFailed hook.context.name error.failure))] ∧
        (command = a.step.text ↔ ∀ refusal, a.reply.answer = .refused (.platform refusal) →
          refusal.command = a.step.text) := by
  intro attempts k e tell a hk hne
  have hstep : hook.plan.steps[k]? = some a.step := by
    rw [← hook.map_step_attempts hook.plan.steps world.tools, List.getElem?_map, hk]
    rfl
  have harmed : (hook.armed world).context.listening = true := by rwa [armed_listening]
  have hid : (hook.armed world).context.runId = e.subject.context.runId :=
    congrArg HookContext.runId (hook.run_context world).symm
  rcases run_of_stop world hplan hstate hk with ⟨err, hf, hending, -⟩ | ⟨hn, -⟩
  · have hsent := sent_of_stop world hplan hstate hlisten hk
    rw [sent_stopping_of_failure harmed _ hf, hid, armed_plan, armed_name, Plan.command_text,
      Attempt.underWay, Plan.command_text] at hsent
    obtain ⟨detail, rfl⟩ := Attempt.failure_eq_blamed hf
    refine ⟨hstep, a.blamed, detail, hook.told world, hending, ?_, Attempt.blamed_eq_iff⟩
    rw [List.append_assoc]
    exact hsent
  · exact absurd hn hne

theorem blames_step_of_signal :
    let hook := ofTargets ["lib", "app"] .succeeded
    let world := World.ofScript [⟨[], .ended (.ofCode 0), .zero⟩,
      ⟨[.wait], .ended .signaled, .zero⟩]
    hook.plan.steps ≠ [] ∧ (∀ step, hook.state ≠ .running step) ∧ hook.context.listening = true ∧
      ∃ detail, (hook.run world).ending = .fail (.build (.stepFailed "make app" none detail)) := by
  intro hook world
  have hplan : hook.plan.steps ≠ [] := List.cons_ne_nil _ _
  have hready : ∀ step, hook.state ≠ .running step := fun _ h ↦ HookState.noConfusion h
  obtain ⟨-, command, detail, -, hending, -, hcommand⟩ :=
    blames_step hook world hplan hready rfl _ rfl nofun
  obtain rfl : command = "make app" := hcommand.2 nofun
  exact ⟨hplan, hready, rfl, detail, hending⟩

theorem blames_program_alone :
    let hook := ofTargets ["compiler", "compiler-api"] .idle
    let world := World.ofScript [⟨[], .refused (.platform (.commandNotFound "make")), .zero⟩]
    (hook.run world).ending =
        .fail (.build (.stepFailed "make" none "command not found: make")) ∧
      ∃ failure, (hook.run world).trace.sent[2]? =
        some (.of (.build (.stepFailed 0 "make compiler" none 1 failure)) (some "run-0")) :=
  ⟨rfl, _, rfl⟩

end Hook

namespace Host

variable {τ : Type} (h : Host) (programs : Programs τ)

theorem command_of_refused {processes : Processes τ} {c : Command} {refusal : PlatformError}
    (hanswer : (h.executor programs processes c).1.answer = .refused (.platform refusal)) :
    refusal.command = c.text := by
  unfold executor at hanswer
  split at hanswer
  · cases hanswer
    rfl
  · nomatch hanswer

theorem blamed_eq {hook : Hook (Processes τ)} (hexecutor : hook.executor = h.executor programs)
    {steps : List Step} {processes : Processes τ} {a : Attempt}
    (ha : a ∈ hook.attempts steps processes) : a.blamed = a.step.text := by
  induction steps generalizing processes with
  | nil => nomatch ha
  | cons step rest ih =>
    rcases List.mem_cons.1 ha with rfl | hrest
    · rw [Attempt.blamed_eq_iff]
      intro refusal hrefusal
      rw [Hook.attempt, hexecutor] at hrefusal
      rw [h.command_of_refused programs hrefusal, Plan.command_text]
      rfl
    · exact ih hrest

end Host

end BuildHook
