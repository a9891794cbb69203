import BuildHook.Proofs.Hook.Rerun

namespace BuildHook

variable {σ : Type}

/-- The executor replies the same, times apart, wherever its states correspond. -/
def Executor.Repeats (R : σ → σ → Prop) (e : Executor σ) : Prop :=
  ∀ tools tools' c, R tools tools' →
    (e tools c).1.untimed = (e tools' c).1.untimed ∧ R (e tools c).2 (e tools' c).2

/-- The first call does what the second does, up to measured times and the id of its run. -/
structure Episode.Repeats {θ : Type} (S : String → θ → θ → Prop)
    (e e' : Episode σ θ HookReport) : Prop where
  ending : e.ending.map HookReport.untimed = e'.ending.map HookReport.untimed
  run : ∃ id, Trace.Alike id e.trace e'.trace ∧ S id e.subject e'.subject

theorem Attempt.made_map_untimed (l : List Attempt) :
    made (l.map untimed) = (made l).map untimed := by
  have hstop : stop (l.map untimed) = stop l := by
    rw [stop, stop, List.findIdx_map]
    rfl
  rw [made, made, hstop, List.map_take]

namespace Hook

def inRun (id : String) (hook : Hook σ) : Hook σ :=
  { hook with context := { hook.context with runId := id } }

theorem run_executor (hook : Hook σ) (world : World σ) :
    (hook.run world).subject.executor = hook.executor := by
  rw [run_subject, armed_executor]

theorem tools_run (hook : Hook σ) (world : World σ) :
    (hook.run world).world.tools =
      (hook.run world).trace.asked.foldl (fun tools c ↦ (hook.executor tools c).2)
        world.tools := by
  rcases hook.running_or_ready with ⟨k, hk⟩ | hready
  · rw [run_of_running hk]
    rfl
  · by_cases hplan : hook.plan.steps = []
    · obtain ⟨-, -, htrace⟩ := run_of_no_steps world hplan hready
      rw [htrace, asked_overture, run_eq_runPlan world hready, runPlan_eq _ _ rfl]
      dsimp only
      rw [armed_plan, hplan, walk]
      cases (hook.armed world).state.advance (hook.armed world).plan.length .succeeded with
      | error e => exact rearm_tools hook world
      | ok next => exact rearm_tools hook world
    · exact run_tools world hplan hready

theorem eq_inRun {hook other : Hook σ} (hplan : hook.plan = other.plan)
    (hexecutor : hook.executor = other.executor)
    (hname : hook.context.name = other.context.name)
    (hlisten : hook.context.listening = other.context.listening)
    (hstate : hook.state = other.state) : hook = other.inRun hook.context.runId := by
  obtain ⟨plan, executor, ⟨name, runId, listening⟩, state⟩ := hook
  obtain ⟨plan', executor', ⟨name', runId', listening'⟩, state'⟩ := other
  subst hplan hexecutor hname hlisten hstate
  rfl

section Repeated

variable {R : σ → σ → Prop} {hook : Hook σ} (h : hook.executor.Repeats R) {world world' : World σ}
  (htools : R world.tools world'.tools) (id : String)

include h

theorem attempts_untimed_eq (steps : List Step) {tools tools' : σ} (htools : R tools tools') :
    (hook.attempts steps tools).map Attempt.untimed =
      ((hook.inRun id).attempts steps tools').map Attempt.untimed := by
  induction steps generalizing tools tools' with
  | nil => rfl
  | cons step rest ih =>
    obtain ⟨hreply, hnext⟩ := h tools tools' (hook.plan.command step) htools
    have hattempt :
        (hook.attempt step tools).untimed = ((hook.inRun id).attempt step tools').untimed :=
      congrArg (Attempt.mk step) hreply
    rw [attempts, attempts, List.map_cons, List.map_cons, hattempt]
    exact congrArg (_ :: ·) (ih hnext)

include htools

theorem replies_untimed_eq :
    (hook.replies world).map Reply.untimed =
      ((hook.inRun id).replies world').map Reply.untimed := by
  have hattempts : (hook.prospect world).map Attempt.untimed =
      ((hook.inRun id).prospect world').map Attempt.untimed :=
    attempts_untimed_eq h id hook.plan.steps htools
  have hreplies (l : List Attempt) : ((Attempt.made l).map Attempt.reply).map Reply.untimed =
      (Attempt.made (l.map Attempt.untimed)).map Attempt.reply := by
    rw [Attempt.made_map_untimed, List.map_map, List.map_map]
    rfl
  rw [replies, replies, hreplies, hreplies, hattempts]

theorem run_alike_inRun :
    (hook.run world).ending.map HookReport.untimed =
        ((hook.inRun id).run world').ending.map HookReport.untimed ∧
      (hook.run world).subject.state = ((hook.inRun id).run world').subject.state ∧
      Trace.Alike (hook.run world).subject.context.runId (hook.run world).trace
        ((hook.inRun id).run world').trace := by
  rcases hook.running_or_ready with ⟨k, hk⟩ | hready
  · have hk' : (hook.inRun id).state = .running k := hk
    rw [run_of_running hk, run_of_running hk']
    exact ⟨rfl, rfl, .nil _⟩
  · have hready' : ∀ step, (hook.inRun id).state ≠ .running step := hready
    by_cases hplan : hook.plan.steps = []
    · have hplan' : (hook.inRun id).plan.steps = [] := hplan
      obtain ⟨hending, hstate, htrace⟩ := run_of_no_steps world hplan hready
      obtain ⟨hending', hstate', htrace'⟩ := run_of_no_steps world' hplan' hready'
      rw [hending, hending', hstate, hstate', htrace, htrace', run_context]
      refine ⟨rfl, rfl, alike_overture ?_ ?_ ?_⟩
      · rw [armed_plan, armed_plan]
        rfl
      · rw [armed_listening, armed_listening]
        rfl
      · rw [armed_name, armed_name]
        rfl
    · exact run_alike world world' rfl rfl rfl hplan hready hready'
        (replies_untimed_eq h htools id)

theorem run_inRun :
    Episode.Repeats (fun id later other ↦ later = other.inRun id) (hook.run world)
      ((hook.inRun id).run world') := by
  obtain ⟨hending, hstate, htrace⟩ := run_alike_inRun h htools id
  refine ⟨hending, _, htrace, eq_inRun ?_ ?_ ?_ ?_ hstate⟩
  · rw [run_plan, run_plan]
    rfl
  · rw [run_executor, run_executor]
    rfl
  · rw [run_context, run_context, armed_name, armed_name]
    rfl
  · rw [run_context, run_context, armed_listening, armed_listening]
    rfl

end Repeated

end Hook

end BuildHook
