import BuildHook.Proofs.Hook.History

namespace BuildHook

namespace Event

def untimed : Event → Event
  | .build (.stepCompleted index command exitCode _) =>
    .build (.stepCompleted index command exitCode .zero)
  | .build (.hookCompleted hook stepsRun _) => .build (.hookCompleted hook stepsRun .zero)
  | e => e

theorem level_untimed (e : Event) : e.untimed.level = e.level := by
  cases e with
  | general d => rfl
  | build b => cases b <;> rfl

theorem source_untimed (e : Event) : e.untimed.source = e.source := by
  cases e with
  | general d => rfl
  | build b => cases b <;> rfl

end Event

namespace Message

def untimed (m : Message) : Message := { m with event := m.event.untimed }

def inRun (id : String) (m : Message) : Message := { m with correlation := some id }

theorem untimed_of (e : Event) (correlation : Option String) :
    (Message.of e correlation).untimed = .of e.untimed correlation := by
  simp only [untimed, of, Event.level_untimed, Event.source_untimed]

end Message

def StepRecord.untimed (r : StepRecord) : StepRecord := { r with duration := .zero }

def HookReport.untimed (r : HookReport) : HookReport :=
  { r with records := r.records.map StepRecord.untimed, duration := .zero }

def Reply.untimed (r : Reply) : Reply := { r with elapsed := .zero }

namespace Ending

theorem map_untimed_cons (r : StepRecord) (e : Ending (List StepRecord)) :
    (e.map (r :: ·)).map (List.map StepRecord.untimed) =
      (e.map (List.map StepRecord.untimed)).map (r.untimed :: ·) := by
  rw [map_map, map_map]
  rfl

theorem map_untimed_report (name : String) (e : Ending (List StepRecord)) :
    (e.map fun records ↦ ⟨name, records, .total (records.map StepRecord.duration)⟩).map
        HookReport.untimed =
      (e.map (List.map StepRecord.untimed)).map fun records ↦ ⟨name, records, .zero⟩ := by
  rw [map_map, map_map]
  rfl

end Ending

namespace Attempt

def untimed (a : Attempt) : Attempt := { a with reply := a.reply.untimed }

def made (l : List Attempt) : List Attempt := l.take (stop l + 1)

variable {a b : Attempt}

theorem made_of_passes (h : a.passes = true) (l : List Attempt) :
    made (a :: l) = a :: made l := by
  rw [made, stop_of_passes h, List.take_succ_cons, made]

theorem head_of_made_eq {l k : List Attempt}
    (h : (made (a :: l)).map untimed = (made (b :: k)).map untimed) : a.untimed = b.untimed := by
  rw [made, made, List.take_succ_cons, List.take_succ_cons] at h
  exact (List.cons.inj h).1

theorem map_untimed_eq {l k : List Attempt} (hsteps : l.map step = k.map step)
    (hreplies : (l.map reply).map Reply.untimed = (k.map reply).map Reply.untimed) :
    l.map untimed = k.map untimed := by
  induction l generalizing k with
  | nil =>
    cases k with
    | nil => rfl
    | cons b k => nomatch hsteps
  | cons a l ih =>
    cases k with
    | nil => nomatch hsteps
    | cons b k =>
      simp only [List.map_cons, List.cons.injEq] at hsteps hreplies ⊢
      refine ⟨?_, ih hsteps.2 hreplies.2⟩
      rw [untimed, untimed, hsteps.1, hreplies.1]

section Alike

variable (h : a.untimed = b.untimed)

include h

theorem step_of_untimed_eq : a.step = b.step := congrArg (fun a ↦ a.step) h

theorem answer_of_untimed_eq : a.reply.answer = b.reply.answer :=
  congrArg (fun a ↦ a.reply.answer) h

theorem actions_of_untimed_eq : a.reply.actions = b.reply.actions :=
  congrArg (fun a ↦ a.reply.actions) h

theorem passes_of_untimed_eq : a.passes = b.passes := by
  rw [passes, passes, answer_of_untimed_eq h]

theorem failure_of_untimed_eq : a.failure = b.failure := by
  rw [failure, failure, answer_of_untimed_eq h, step_of_untimed_eq h]

theorem record_of_untimed_eq : a.record.untimed = b.record.untimed := by
  rw [record, record, step_of_untimed_eq h]
  rfl

end Alike

end Attempt

namespace Trace

/-- The traces show the same, up to times and the run that the messages belong to: that is `id`
in the first. -/
structure Alike (id : String) (t u : Trace) : Prop where
  asked : t.asked = u.asked
  sent : t.sent.map Message.untimed = u.sent.map fun m ↦ m.untimed.inRun id

variable {id : String} {t u t' u' : Trace}

theorem Alike.nil (id : String) : Alike id [] [] := ⟨rfl, rfl⟩

theorem Alike.append (h : Alike id t u) (h' : Alike id t' u') :
    Alike id (t ++ t') (u ++ u') where
  asked := by rw [asked_append, asked_append, h.asked, h'.asked]
  sent := by
    rw [sent_append, sent_append, List.map_append, List.map_append, h.sent, h'.sent]

theorem Alike.log (r s : LogRecord) (h : Alike id t u) : Alike id (.log r :: t) (.log s :: u) :=
  ⟨h.asked, h.sent⟩

theorem Alike.ask (c : Command) (h : Alike id t u) : Alike id (.ask c :: t) (.ask c :: u) :=
  ⟨congrArg (c :: ·) h.asked, h.sent⟩

end Trace

namespace HookContext

variable {c d : HookContext} (hlisten : c.listening = d.listening)

include hlisten

theorem alike_emit {e f : Event} (h : e.untimed = f.untimed) :
    Trace.Alike c.runId (c.emit e) (d.emit f) where
  asked := by rw [asked_emit, asked_emit]
  sent := by
    rw [sent_emit, sent_emit, hlisten]
    split
    · simp only [List.map_cons, List.map_nil, Message.untimed_of, h]
      rfl
    · rfl

theorem alike_perform (l : List Action) :
    Trace.Alike c.runId (l.flatMap c.reporter.perform) (l.flatMap d.reporter.perform) where
  asked := by rw [Reporter.asked_perform, Reporter.asked_perform]
  sent := by
    rw [Reporter.sent_perform, Reporter.sent_perform, reporter_listening, reporter_listening,
      hlisten]
    split
    · simp only [List.map_map]
      refine List.map_congr_left fun e _ ↦ ?_
      simp only [Function.comp_apply, Message.untimed_of]
      rfl
    · rfl

end HookContext

namespace Hook

variable {σ τ : Type}

structure Walk.Alike (id : String) (w : Walk σ) (v : Walk τ) : Prop where
  ending : w.ending.map (List.map StepRecord.untimed) = v.ending.map (List.map StepRecord.untimed)
  state : w.state = v.state
  trace : Trace.Alike id w.trace v.trace

section Simulation

variable {hook : Hook σ} {other : Hook τ} (hplan : hook.plan = other.plan)
  (hlisten : hook.context.listening = other.context.listening)

include hplan hlisten

theorem alike_opening (index : Nat) {a b : Attempt} (h : a.untimed = b.untimed) :
    Trace.Alike hook.context.runId (hook.opening index a) (other.opening index b) := by
  rw [opening, opening, hplan, Attempt.step_of_untimed_eq h, Attempt.actions_of_untimed_eq h]
  exact .append (.log _ _ (HookContext.alike_emit hlisten rfl))
    (.ask _ (HookContext.alike_perform hlisten _))

theorem alike_passage (index : Nat) {a b : Attempt} (h : a.untimed = b.untimed) :
    Trace.Alike hook.context.runId (hook.passage index a) (other.passage index b) := by
  refine .append (alike_opening hplan hlisten index h) (HookContext.alike_emit hlisten ?_)
  rw [Attempt.step_of_untimed_eq h]
  rfl

variable (hname : hook.context.name = other.context.name)

include hname

theorem alike_reportFailure (index : Nat) (step : Step) (e : Error) :
    Trace.Alike hook.context.runId (hook.reportFailure index step e)
      (other.reportFailure index step e) := by
  rw [reportFailure, reportFailure, hplan, hname]
  exact .append (.log _ _ (HookContext.alike_emit hlisten rfl)) (HookContext.alike_emit hlisten rfl)

/-- A walk is simulated by another hook of the same plan, name and listeners whose executor gives
the same replies, times apart. -/
theorem Walks.simulates {index : Nat} {steps : List Step} {tools : σ} {w : Walk σ}
    (h : hook.Walks index steps tools w) {tools' : τ}
    (hmade : (Attempt.made (hook.attempts steps tools)).map Attempt.untimed =
      (Attempt.made (other.attempts steps tools')).map Attempt.untimed) :
    ∃ v, other.Walks index steps tools' v ∧ Walk.Alike hook.context.runId w v := by
  -- the other executor is in a state of its own, which only its replies tell of
  induction h generalizing tools' with
  | done index tools => exact ⟨_, .done index tools', rfl, rfl, .nil _⟩
  | @pass index step rest tools w hp later ih =>
    rw [attempts, attempts] at hmade
    have hhead := Attempt.head_of_made_eq hmade
    have hp' := (Attempt.passes_of_untimed_eq hhead).symm.trans hp
    rw [Attempt.made_of_passes hp, Attempt.made_of_passes hp'] at hmade
    obtain ⟨v, hv, halike⟩ := ih (List.cons.inj hmade).2
    refine ⟨_, .pass hp' hv, ?_, halike.state,
      .append (alike_passage hplan hlisten index hhead) halike.trace⟩
    rw [Ending.map_untimed_cons, Ending.map_untimed_cons, halike.ending,
      Attempt.record_of_untimed_eq hhead]
  | @fail index step rest tools e hf =>
    rw [attempts, attempts] at hmade
    have hhead := Attempt.head_of_made_eq hmade
    have hf' := (Attempt.failure_of_untimed_eq hhead).symm.trans hf
    exact ⟨_, .fail index rest hf', rfl, rfl, .append (alike_opening hplan hlisten index hhead)
      (alike_reportFailure hplan hlisten hname index step _)⟩
  | @hang index step rest tools hn =>
    rw [attempts, attempts] at hmade
    have hhead := Attempt.head_of_made_eq hmade
    have hn' := (Attempt.answer_of_untimed_eq hhead).symm.trans hn
    exact ⟨_, .hang index rest hn', rfl, rfl,
      alike_opening hplan hlisten index hhead⟩

theorem alike_overture :
    Trace.Alike hook.context.runId hook.overture other.overture := by
  rw [overture, overture, hplan, hname]
  exact .log _ _ (HookContext.alike_emit hlisten rfl)

omit hplan in
theorem alike_finale {x y : Ending (List StepRecord)}
    (h : x.map (List.map StepRecord.untimed) = y.map (List.map StepRecord.untimed)) :
    Trace.Alike hook.context.runId (hook.finale x) (other.finale y) := by
  cases x with
  | ok l =>
    cases y with
    | ok l' =>
      have hmap : l.map StepRecord.untimed = l'.map StepRecord.untimed :=
        Except.ok.inj (Ending.done.inj h)
      have hlength : l.length = l'.length := by simpa using congrArg List.length hmap
      refine HookContext.alike_emit hlisten ?_
      rw [hlength, hname]
      rfl
    | _ => nomatch h
  | fail e =>
    cases y with
    | fail e' => exact .nil _
    | _ => nomatch h
  | pending =>
    cases y with
    | pending => exact .nil _
    | _ => nomatch h

end Simulation

def replies (hook : Hook σ) (world : World σ) : List Reply :=
  (Attempt.made (hook.prospect world)).map Attempt.reply

theorem map_step_made (hook : Hook σ) (world : World σ) :
    (Attempt.made (hook.prospect world)).map Attempt.step =
      hook.plan.steps.take (Attempt.made (hook.prospect world)).length := by
  have htake := List.take_eq_take_min (l := hook.plan.steps)
    (i := Attempt.stop (hook.prospect world) + 1)
  rw [Attempt.made, List.map_take, map_step_attempts, htake, List.length_take, length_attempts]

theorem made_eq_of_replies_eq {hook : Hook σ} {other : Hook τ} {world : World σ}
    {world' : World τ} (hplan : hook.plan = other.plan)
    (h : (hook.replies world).map Reply.untimed = (other.replies world').map Reply.untimed) :
    (Attempt.made (hook.prospect world)).map Attempt.untimed =
      (Attempt.made (other.prospect world')).map Attempt.untimed := by
  have hlength : (Attempt.made (hook.prospect world)).length =
      (Attempt.made (other.prospect world')).length := by
    simpa [replies] using congrArg List.length h
  have hsteps := hook.map_step_made world
  rw [hplan, hlength, ← map_step_made] at hsteps
  exact Attempt.map_untimed_eq hsteps h

theorem run_alike {hook : Hook σ} {other : Hook τ} (world : World σ) (world' : World τ)
    (hplan : hook.plan = other.plan) (hname : hook.context.name = other.context.name)
    (hlisten : hook.context.listening = other.context.listening)
    (hsteps : hook.plan.steps ≠ []) (hready : ∀ step, hook.state ≠ .running step)
    (hready' : ∀ step, other.state ≠ .running step)
    (hreplies : (hook.replies world).map Reply.untimed =
      (other.replies world').map Reply.untimed) :
    (hook.run world).ending.map HookReport.untimed =
        (other.run world').ending.map HookReport.untimed ∧
      (hook.run world).subject.state = (other.run world').subject.state ∧
      Trace.Alike (hook.run world).subject.context.runId (hook.run world).trace
        (other.run world').trace := by
  have hplan' : (hook.armed world).plan = (other.armed world').plan := by
    rw [armed_plan, armed_plan, hplan]
  have hname' : (hook.armed world).context.name = (other.armed world').context.name := by
    rw [armed_name, armed_name, hname]
  have hlisten' : (hook.armed world).context.listening =
      (other.armed world').context.listening := by
    rw [armed_listening, armed_listening, hlisten]
  have hmade := made_eq_of_replies_eq hplan hreplies
  rw [prospect, prospect, ← attempts_armed hook world, ← attempts_armed other world',
    ← hplan] at hmade
  obtain ⟨w, hwalks⟩ := (hook.armed world).exists_walks 0 hook.plan.steps world.tools
  obtain ⟨v, hwalks', halike⟩ := hwalks.simulates hplan' hlisten' hname' hmade
  rw [hplan] at hsteps hwalks'
  have hrun := run_of_walks world (hplan ▸ hsteps) hready hwalks
  have hrun' := run_of_walks world' hsteps hready' hwalks'
  refine ⟨?_, ?_, ?_⟩
  · rw [hrun, hrun', Ending.map_untimed_report, Ending.map_untimed_report, halike.ending, hname]
  · rw [hrun, hrun']
    exact halike.state
  · rw [run_context, hrun, hrun']
    exact .append (.append (alike_overture hplan' hlisten' hname') halike.trace)
      (alike_finale hlisten' hname' halike.ending)

/-- A hook that has come to an end, however often it was called and whatever came of that, does
what a new hook of the same plan, name and listeners would do if its executor gave the same
replies. Only the run has an id of its own. -/
theorem rerun_eq_fresh (plan : Plan) (executor : Executor σ) (context : HookContext)
    (worlds : List (World σ)) (world : World σ) (executor' : Executor τ) (runId : String)
    (world' : World τ) :
    let used := (⟨plan, executor, context, .idle⟩ : Hook σ).after worlds
    let fresh : Hook τ := ⟨plan, executor', { context with runId }, .idle⟩
    used.state.isTerminal = true →
    (used.replies world).map Reply.untimed = (fresh.replies world').map Reply.untimed →
    let again := used.run world
    let first := fresh.run world'
    again.trace.asked = first.trace.asked ∧
      again.ending.map HookReport.untimed = first.ending.map HookReport.untimed ∧
      again.subject.state = first.subject.state ∧
      again.trace.sent.map Message.untimed =
        first.trace.sent.map (fun m ↦ m.untimed.inRun world.draw.1) ∧
      again.subject.context = { context with runId := world.draw.1 } := by
  intro used fresh hend hreplies again first
  have hplan : used.plan = plan := after_plan _ worlds
  have hsteps : (⟨plan, executor, context, .idle⟩ : Hook σ).plan.steps ≠ [] :=
    steps_ne_nil_of_terminal rfl hend
  have hready : ∀ step, used.state ≠ .running step := by
    intro step hrunning
    rw [hrunning] at hend
    nomatch hend
  have hname : used.context.name = context.name := after_name _ worlds
  have hlisten : used.context.listening = context.listening := after_listening _ worlds
  have hcontext : again.subject.context = { context with runId := world.draw.1 } := by
    rw [run_context, armed_of_terminal world hend]
    simp only [hname, hlisten]
  have hidle : ∀ step, fresh.state ≠ .running step := fun _ h ↦ HookState.noConfusion h
  obtain ⟨hending, hstate, htrace⟩ := run_alike world world' hplan hname hlisten
    (hplan ▸ hsteps) hready hidle hreplies
  rw [hcontext] at htrace
  exact ⟨htrace.asked, hending, hstate, htrace.sent, hcontext⟩

theorem rerun_after_signal :
    let hook := ofTargets ["lib", "app"] .idle
    let used := hook.after [.ofScript [⟨[], .ended .signaled, .zero⟩]]
    let world := World.ofScript [⟨[.wait], .ended (.ofCode 0), .zero⟩]
    used.state.isTerminal = true ∧
      (used.replies world).map Reply.untimed = (hook.replies world).map Reply.untimed ∧
      (used.run world).trace.asked = (hook.run world).trace.asked ∧
      (used.run world).subject.state = .succeeded ∧
      (used.run world).subject.context.runId = "run-1" := by
  intro hook used world
  have hend : used.state.isTerminal = true := rfl
  have hreplies : (used.replies world).map Reply.untimed = (hook.replies world).map Reply.untimed :=
    rfl
  obtain ⟨hasked, -, hstate, -, hcontext⟩ := rerun_eq_fresh hook.plan hook.executor hook.context _
    world hook.executor "run-0" world hend hreplies
  exact ⟨hend, hreplies, hasked, hstate, congrArg HookContext.runId hcontext⟩

end Hook

end BuildHook
