import Mathlib.Data.List.Forall2
import BuildHook.Proofs.Hook.Rerun

namespace BuildHook

variable {σ τ : Type}

theorem Ending.map_eq_map_cases {α β : Type} {f : α → β} {x y : Ending α} (h : x.map f = y.map f) :
    (∃ a b, x = .ok a ∧ y = .ok b ∧ f a = f b) ∨ (∃ e, x = .fail e ∧ y = .fail e) ∨
      x = .pending ∧ y = .pending := by
  cases x with
  | ok a =>
    obtain ⟨b, rfl, hb⟩ := map_eq_ok_iff.1 h.symm
    exact .inl ⟨a, b, rfl, rfl, hb.symm⟩
  | fail e =>
    cases y with
    | fail e' =>
      cases h
      exact .inr (.inl ⟨e, rfl, rfl⟩)
    | ok b => nomatch h
    | pending => nomatch h
  | pending =>
    cases y with
    | pending => exact .inr (.inr ⟨rfl, rfl⟩)
    | ok b => nomatch h
    | fail e => nomatch h

/-- Executors that give the same answers wherever their states correspond. What they tell before
that, who hangs up meanwhile and how long they take does not matter. -/
def Executor.Matches (R : σ → τ → Prop) (e : Executor σ) (e' : Executor τ) : Prop :=
  ∀ tools tools' c, R tools tools' →
    (e tools c).1.answer = (e' tools' c).1.answer ∧ R (e tools c).2 (e' tools' c).2

/-- Two calls that come to the same, times apart, after asking their executors for the same. -/
structure Episode.Agrees {θ θ' α : Type} (R : σ → τ → Prop) (S : θ → θ' → Prop) (untimed : α → α)
    (e : Episode σ θ α) (e' : Episode τ θ' α) : Prop where
  ending : e.ending.map untimed = e'.ending.map untimed
  subject : S e.subject e'.subject
  tools : R e.world.tools e'.world.tools
  asked : e.trace.asked = e'.trace.asked

namespace Hook

structure Matches (R : σ → τ → Prop) (hook : Hook σ) (other : Hook τ) : Prop where
  plan : hook.plan = other.plan
  state : hook.state = other.state
  name : hook.context.name = other.context.name
  executor : Executor.Matches R hook.executor other.executor

structure Walk.Agrees (R : σ → τ → Prop) (w : Walk σ) (v : Walk τ) : Prop where
  ending : w.ending.map (List.map StepRecord.untimed) = v.ending.map (List.map StepRecord.untimed)
  state : w.state = v.state
  tools : R w.tools v.tools
  asked : w.trace.asked = v.trace.asked

theorem armed_state_eq (hook : Hook σ) (world : World σ) :
    (hook.armed world).state = if hook.state.isTerminal then .idle else hook.state := by
  unfold armed rearm
  split <;> rfl

namespace Matches

variable {R : σ → τ → Prop} {hook : Hook σ} {other : Hook τ} (h : hook.Matches R other)

include h

theorem attempt (step : Step) {tools : σ} {tools' : τ} (htools : R tools tools') :
    (hook.attempt step tools).reply.answer = (other.attempt step tools').reply.answer ∧
      R (hook.next step tools) (other.next step tools') := by
  rw [Hook.attempt, Hook.attempt, Hook.next, Hook.next, h.plan]
  exact h.executor _ _ _ htools

theorem runStep (index : Nat) (step : Step) {tools : σ} {tools' : τ} (htools : R tools tools') :
    let s := hook.runStep index step tools
    let s' := other.runStep index step tools'
    s.1.map StepRecord.untimed = s'.1.map StepRecord.untimed ∧ R s.2.1 s'.2.1 ∧
      s.2.2.asked = s'.2.2.asked := by
  obtain ⟨hanswer, hnext⟩ := h.attempt step htools
  rcases (hook.attempt step tools).passes_or_fails_or_hangs with hp | ⟨e, hf⟩ | hn
  · have hp' : (other.attempt step tools').passes = true := by
      rwa [Attempt.passes_iff, ← hanswer, ← Attempt.passes_iff]
    rw [hook.runStep_of_passes hp, other.runStep_of_passes hp']
    refine ⟨rfl, hnext, ?_⟩
    rw [asked_passage, asked_passage, h.plan]
    rfl
  · have hf' : (other.attempt step tools').failure = some e := by
      rw [← hf, Attempt.failure, Attempt.failure, hanswer]
      rfl
    rw [hook.runStep_of_failure hf, other.runStep_of_failure hf']
    refine ⟨rfl, hnext, ?_⟩
    rw [asked_opening, asked_opening, h.plan]
    rfl
  · have hn' : (other.attempt step tools').reply.answer = .never := by rw [← hanswer, hn]
    rw [hook.runStep_of_never hn, other.runStep_of_never hn']
    refine ⟨rfl, hnext, ?_⟩
    rw [asked_opening, asked_opening, h.plan]
    rfl

theorem walk (index : Nat) (steps : List Step) (state : HookState) {tools : σ} {tools' : τ}
    (htools : R tools tools') :
    Walk.Agrees R (hook.walk index steps state tools) (other.walk index steps state tools') := by
  -- both are in the same state all the way, so that a move is refused to both or to neither
  induction steps generalizing index state tools tools' with
  | nil =>
    rw [Hook.walk, Hook.walk, h.plan]
    cases state.advance other.plan.length .succeeded with
    | error e => exact ⟨rfl, rfl, htools, rfl⟩
    | ok next => exact ⟨rfl, rfl, htools, rfl⟩
  | cons step rest ih =>
    rw [Hook.walk, Hook.walk, h.plan]
    cases state.advance other.plan.length (.running index) with
    | error e => exact ⟨rfl, rfl, htools, rfl⟩
    | ok next =>
      obtain ⟨hending, hafter, hasked⟩ := h.runStep index step htools
      generalize hook.runStep index step tools = s at hending hafter hasked ⊢
      generalize other.runStep index step tools' = s' at hending hafter hasked ⊢
      obtain ⟨ending, after, trace⟩ := s
      obtain ⟨ending', after', trace'⟩ := s'
      rcases Ending.map_eq_map_cases hending with ⟨r, r', rfl, rfl, hr⟩ | ⟨e, rfl, rfl⟩ | ⟨rfl, rfl⟩
      · obtain ⟨hlater, hstate, htools, hasked'⟩ := ih (index + 1) next hafter
        dsimp only [Ending.ok]
        refine ⟨?_, hstate, htools, ?_⟩
        · rw [Ending.map_untimed_cons, Ending.map_untimed_cons, hlater, hr]
        · rw [Trace.asked_append, Trace.asked_append, hasked, hasked']
      · dsimp only [Ending.fail]
        cases next.advance other.plan.length (.failed index) with
        | error refused => exact ⟨rfl, rfl, hafter, hasked⟩
        | ok last =>
          refine ⟨rfl, rfl, hafter, ?_⟩
          rw [Trace.asked_append, Trace.asked_append, asked_reportFailure, asked_reportFailure]
          rw [hasked]
      · exact ⟨rfl, rfl, hafter, hasked⟩

theorem armed {world : World σ} {world' : World τ} :
    (hook.armed world).Matches R (other.armed world') where
  plan := by rw [armed_plan, armed_plan, h.plan]
  state := by rw [armed_state_eq, armed_state_eq, h.state]
  name := by rw [armed_name, armed_name, h.name]
  executor := by
    rw [armed_executor, armed_executor]
    exact h.executor

theorem runPlan {world : World σ} {world' : World τ} (hworld : R world.tools world'.tools) :
    Episode.Agrees R (Matches R) HookReport.untimed (hook.runPlan world)
      (other.runPlan world') := by
  have hwalk : Walk.Agrees R (hook.walk 0 hook.plan.steps hook.state world.tools)
      (other.walk 0 other.plan.steps other.state world'.tools) := by
    rw [← h.plan, ← h.state]
    exact h.walk 0 _ _ hworld
  rw [Hook.runPlan_eq hook world rfl, Hook.runPlan_eq other world' rfl]
  exact {
    ending := by rw [Ending.map_untimed_report, Ending.map_untimed_report, hwalk.ending, h.name]
    subject := ⟨h.plan, hwalk.state, h.name, h.executor⟩
    tools := hwalk.tools
    asked := by rw [asked_course, asked_course, hwalk.asked] }

theorem run {world : World σ} {world' : World τ} (hworld : R world.tools world'.tools) :
    Episode.Agrees R (Matches R) HookReport.untimed (hook.run world) (other.run world') := by
  have harmed : (hook.armed world).Matches R (other.armed world') := h.armed
  have htools : R (hook.rearm world).2.tools (other.rearm world').2.tools := by
    rwa [rearm_tools, rearm_tools]
  by_cases hidle : (hook.armed world).state = .idle
  · have hidle' : (other.armed world').state = .idle := by rw [← harmed.state, hidle]
    simp only [Hook.run, hidle, hidle', ↓reduceIte]
    exact harmed.runPlan htools
  · have hidle' : ¬ (other.armed world').state = .idle := by rwa [← harmed.state]
    simp only [Hook.run, hidle, hidle', ↓reduceIte]
    exact ⟨by rw [harmed.state], harmed, htools, rfl⟩

theorem history {worlds : List (World σ)} {worlds' : List (World τ)}
    (hworlds : List.Forall₂ (fun world world' ↦ R world.tools world'.tools) worlds worlds') :
    List.Forall₂ (Episode.Agrees R (Matches R) HookReport.untimed) (hook.history worlds)
      (other.history worlds') := by
  induction hworlds generalizing hook other with
  | nil => exact .nil
  | cons hworld hrest ih =>
    have hrun := h.run hworld
    exact .cons hrun (ih hrun.subject)

end Matches

end Hook

end BuildHook
