import BuildHook.Proofs.Hook.Run

namespace BuildHook

namespace Message

/-- It belongs to the run, and its level and source are those of its event: only the end of a
failed step or hook is an error. -/
def Fits (id : String) (m : Message) : Prop :=
  m.correlation = some id ∧
    match m.event with
    | .build (.stepFailed ..) | .build (.hookFailed ..) => m.level = .error ∧ m.source = "build"
    | .build _ => m.level = .info ∧ m.source = "build"
    | .general _ => m.level = .debug ∧ m.source = "general"

theorem fits_of (e : Event) (id : String) : (Message.of e (some id)).Fits id := by
  cases e with
  | general d => exact ⟨rfl, rfl, rfl⟩
  | build b => cases b <;> exact ⟨rfl, rfl, rfl⟩

end Message

namespace Trace

variable {id : String} {t u : Trace}

def Fits (id : String) (t : Trace) : Prop := ∀ m ∈ t.sent, m.Fits id

theorem Fits.nil (id : String) : Fits id [] := List.forall_mem_nil _

theorem Fits.append (ht : Fits id t) (hu : Fits id u) : Fits id (t ++ u) := by
  intro m hm
  rw [sent_append, List.mem_append] at hm
  exact hm.elim (ht m) (hu m)

theorem Fits.cons_of_sent_eq {e : Effect} (he : sent [e] = []) (ht : Fits id t) :
    Fits id (e :: t) := by
  intro m hm
  rw [← List.singleton_append, sent_append, he, List.nil_append] at hm
  exact ht m hm

def Stays (t : Trace) : Prop := .hangUp ∉ t

theorem Stays.nil : Stays [] := List.not_mem_nil

theorem Stays.append (ht : Stays t) (hu : Stays u) : Stays (t ++ u) :=
  fun hm ↦ (List.mem_append.1 hm).elim ht hu

theorem Stays.cons {e : Effect} (he : .hangUp ≠ e) (ht : Stays t) : Stays (e :: t) :=
  fun hm ↦ (List.mem_cons.1 hm).elim he ht

end Trace

namespace HookContext

variable (c : HookContext)

theorem fits_emit (e : Event) : Trace.Fits c.runId (c.emit e) := by
  intro m hm
  rw [sent_emit] at hm
  split at hm
  · obtain rfl := List.mem_singleton.1 hm
    exact Message.fits_of e c.runId
  · nomatch hm

theorem fits_perform (l : List Action) : Trace.Fits c.runId (l.flatMap c.reporter.perform) := by
  intro m hm
  rw [Reporter.sent_perform] at hm
  split at hm
  · obtain ⟨e, -, rfl⟩ := List.mem_map.1 hm
    exact Message.fits_of e c.runId
  · nomatch hm

theorem stays_emit (e : Event) : Trace.Stays (c.emit e) := by
  unfold emit Reporter.emit Trace.Stays
  split <;> simp

theorem stays_perform {l : List Action} (h : .hangUp ∉ l) :
    Trace.Stays (l.flatMap c.reporter.perform) := by
  intro hm
  obtain ⟨a, ha, hmem⟩ := List.mem_flatMap.1 hm
  cases a with
  | log r => simp [Reporter.perform] at hmem
  | emit e => exact c.stays_emit e hmem
  | wait => simp [Reporter.perform] at hmem
  | hangUp => exact h ha

end HookContext

namespace Attempt

def underWay (plan : Plan) (id : String) (index : Nat) (a : Attempt) : List Message :=
  .of (.build (.stepStarted index (plan.command a.step).text)) (some id) ::
    (Action.events a.reply.actions).map (.of · (some id))

def completed (plan : Plan) (id : String) (index : Nat) (a : Attempt) : List Message :=
  a.underWay plan id index ++
    [.of (.build (.stepCompleted index (plan.command a.step).text 0 a.reply.elapsed)) (some id)]

end Attempt

namespace Plan

theorem command_text (plan : Plan) (step : Step) : (plan.command step).text = step.text := by
  simp [command, Command.text, Step.text, String.append_assoc]

end Plan

namespace Hook

variable {σ : Type}

section Pieces

variable (hook : Hook σ)

def stopping (index : Nat) (a : Attempt) : Trace :=
  hook.opening index a ++
    match a.failure with
    | some e => hook.reportFailure index a.step (.build e)
    | none => []

variable {hook} in
theorem Walks.trace_eq {index : Nat} {steps : List Step} {tools : σ} {w : Walk σ}
    (h : hook.Walks index steps tools w) :
    let attempts := hook.attempts steps tools
    w.trace = ((attempts.take (Attempt.stop attempts)).zipIdx index).flatMap
        (fun (a, i) ↦ hook.passage i a) ++
      match attempts[Attempt.stop attempts]? with
      | none => []
      | some a => hook.stopping (index + Attempt.stop attempts) a := by
  induction h with
  | done => rfl
  | @pass index step rest tools w hp later ih =>
    have hindex : index + (Attempt.stop (hook.attempts rest (hook.next step tools)) + 1) =
        index + 1 + Attempt.stop (hook.attempts rest (hook.next step tools)) := by omega
    simp only [attempts, Attempt.stop_of_passes hp, List.take_succ_cons, List.zipIdx_cons,
      List.flatMap_cons, List.getElem?_cons_succ, hindex]
    rw [ih, List.append_assoc]
  | fail index rest hf =>
    simp only [attempts, Attempt.stop_of_failure hf, List.take_zero, List.zipIdx_nil,
      List.flatMap_nil, List.getElem?_cons_zero, stopping, hf]
    rfl
  | hang index rest hn =>
    have hf := Attempt.failure_eq_none_of_never hn
    simp only [attempts, Attempt.stop_of_never hn, List.take_zero, List.zipIdx_nil,
      List.flatMap_nil, List.getElem?_cons_zero, stopping, hf]
    exact (List.append_nil _).symm

theorem fits_opening (index : Nat) (a : Attempt) :
    (hook.opening index a).Fits hook.context.runId := by
  refine .cons_of_sent_eq rfl (.append (hook.context.fits_emit _) ?_)
  exact .cons_of_sent_eq rfl (hook.context.fits_perform _)

theorem fits_passage (index : Nat) (a : Attempt) :
    (hook.passage index a).Fits hook.context.runId :=
  .append (hook.fits_opening index a) (hook.context.fits_emit _)

theorem fits_reportFailure (index : Nat) (step : Step) (e : Error) :
    (hook.reportFailure index step e).Fits hook.context.runId :=
  .append (.cons_of_sent_eq rfl (hook.context.fits_emit _)) (hook.context.fits_emit _)

theorem fits_overture : hook.overture.Fits hook.context.runId :=
  .cons_of_sent_eq rfl (hook.context.fits_emit _)

theorem fits_finale (ending : Ending (List StepRecord)) :
    (hook.finale ending).Fits hook.context.runId := by
  unfold finale
  split
  · exact hook.context.fits_emit _
  · exact .nil _

variable {hook} in
theorem Walks.fits {index : Nat} {steps : List Step} {tools : σ} {w : Walk σ}
    (h : hook.Walks index steps tools w) : w.trace.Fits hook.context.runId := by
  induction h with
  | done => exact .nil _
  | pass hp later ih => exact .append (hook.fits_passage _ _) ih
  | fail index rest hf => exact .append (hook.fits_opening _ _) (hook.fits_reportFailure _ _ _)
  | hang index rest hn => exact hook.fits_opening _ _

theorem stays_opening {a : Attempt} (h : .hangUp ∉ a.reply.actions) (index : Nat) :
    (hook.opening index a).Stays := by
  refine .append (.cons nofun (hook.context.stays_emit _)) ?_
  exact .cons nofun (hook.context.stays_perform h)

theorem stays_passage {a : Attempt} (h : .hangUp ∉ a.reply.actions) (index : Nat) :
    (hook.passage index a).Stays :=
  .append (hook.stays_opening h index) (hook.context.stays_emit _)

theorem stays_reportFailure (index : Nat) (step : Step) (e : Error) :
    (hook.reportFailure index step e).Stays :=
  .append (.cons nofun (hook.context.stays_emit _)) (hook.context.stays_emit _)

theorem stays_overture : hook.overture.Stays := .cons nofun (hook.context.stays_emit _)

theorem stays_finale (ending : Ending (List StepRecord)) : (hook.finale ending).Stays := by
  unfold finale
  split
  · exact hook.context.stays_emit _
  · exact .nil

variable {hook} in
theorem Walks.stays {index : Nat} {steps : List Step} {tools : σ} {w : Walk σ}
    (h : hook.Walks index steps tools w)
    (hstay : ∀ a ∈ (hook.attempts steps tools).take
      (Attempt.stop (hook.attempts steps tools) + 1), .hangUp ∉ a.reply.actions) :
    w.trace.Stays := by
  induction h with
  | done => exact .nil
  | pass hp later ih =>
    rw [attempts, Attempt.stop_of_passes hp, List.take_succ_cons, List.forall_mem_cons] at hstay
    exact .append (hook.stays_passage hstay.1 _) (ih hstay.2)
  | fail index rest hf =>
    have hfirst := hstay _ List.mem_cons_self
    exact .append (hook.stays_opening hfirst _) (hook.stays_reportFailure _ _ _)
  | hang index rest hn => exact hook.stays_opening (hstay _ List.mem_cons_self) _

variable {hook}
variable (hlisten : hook.context.listening = true)

include hlisten

theorem sent_emit (e : Event) : (hook.context.emit e).sent = [.of e (some hook.context.runId)] := by
  rw [HookContext.sent_emit, hlisten, if_pos rfl]

theorem sent_opening (index : Nat) (a : Attempt) :
    (hook.opening index a).sent = a.underWay hook.plan hook.context.runId index := by
  simp [opening, starting, record, sent_emit hlisten, Reporter.sent_perform, hlisten,
    Attempt.underWay, Plan.command_text]

theorem sent_passage (index : Nat) (a : Attempt) :
    (hook.passage index a).sent = a.completed hook.plan hook.context.runId index := by
  rw [passage, Trace.sent_append, sent_opening hlisten, sent_emit hlisten, Attempt.completed,
    Plan.command_text]

theorem sent_reportFailure (index : Nat) (step : Step) (e : Error) :
    (hook.reportFailure index step e).sent =
      [.of (.build (.stepFailed index (hook.plan.command step).text (exitCodeOf e)
          (hook.plan.length - index - 1) e.failure)) (some hook.context.runId),
        .of (.build (.hookFailed hook.context.name e.failure)) (some hook.context.runId)] := by
  simp [reportFailure, record, sent_emit hlisten, Plan.command_text]

theorem sent_stopping_of_failure (index : Nat) {a : Attempt} {e : BuildError}
    (hf : a.failure = some e) :
    (hook.stopping index a).sent = a.underWay hook.plan hook.context.runId index ++
      [.of (.build (.stepFailed index (hook.plan.command a.step).text (exitCodeOf (.build e))
          (hook.plan.length - index - 1) e.failure)) (some hook.context.runId),
        .of (.build (.hookFailed hook.context.name e.failure)) (some hook.context.runId)] := by
  rw [stopping, hf, Trace.sent_append, sent_opening hlisten, sent_reportFailure hlisten]
  rfl

theorem sent_stopping_of_never (index : Nat) {a : Attempt} (hn : a.reply.answer = .never) :
    (hook.stopping index a).sent = a.underWay hook.plan hook.context.runId index := by
  rw [stopping, Attempt.failure_eq_none_of_never hn, List.append_nil, sent_opening hlisten]

theorem sent_overture :
    hook.overture.sent =
      [.of (.build (.hookStarted hook.context.name hook.plan.length))
        (some hook.context.runId)] := by
  simp [overture, record, sent_emit hlisten]

theorem sent_passages (l : List (Attempt × Nat)) :
    Trace.sent (l.flatMap fun (a, i) ↦ hook.passage i a) =
      l.flatMap fun (a, i) ↦ a.completed hook.plan hook.context.runId i := by
  induction l with
  | nil => rfl
  | cons p l ih =>
    rw [List.flatMap_cons, List.flatMap_cons, Trace.sent_append, ih, sent_passage hlisten]

end Pieces

section Call

def told (hook : Hook σ) (world : World σ) : List Message :=
  let id := (hook.run world).subject.context.runId
  .of (.build (.hookStarted hook.context.name hook.plan.length)) (some id) ::
    ((hook.prospect world).take (Attempt.stop (hook.prospect world))).zipIdx.flatMap
      fun (a, i) ↦ a.completed hook.plan id i

variable {hook : Hook σ} (world : World σ) (hplan : hook.plan.steps ≠ [])
  (hstate : ∀ step, hook.state ≠ .running step)

include hplan hstate

theorem run_trace_of_all_pass
    (hstop : (hook.prospect world)[Attempt.stop (hook.prospect world)]? = none) :
    (hook.run world).trace = (hook.armed world).overture ++
      ((hook.prospect world).take (Attempt.stop (hook.prospect world))).zipIdx.flatMap
        (fun (a, i) ↦ (hook.armed world).passage i a) ++
      (hook.armed world).context.emit (.build (.hookCompleted hook.context.name
        hook.plan.length (.total ((hook.prospect world).map fun a ↦ a.reply.elapsed)))) := by
  obtain ⟨w, hwalks, hrun⟩ := exists_run_eq world hplan hstate
  have htrace := hwalks.trace_eq
  rw [prospect, ← attempts_armed hook world] at hstop ⊢
  obtain ⟨hending, -⟩ := hwalks.of_stop_eq_none hstop
  rw [hrun, htrace, hstop, hending]
  simp only [List.append_nil, finale, Ending.ok, List.length_map, length_attempts, List.map_map]
  rw [armed_name]
  rfl

theorem run_trace_of_stop {a : Attempt}
    (hstop : (hook.prospect world)[Attempt.stop (hook.prospect world)]? = some a) :
    (hook.run world).trace = (hook.armed world).overture ++
      ((hook.prospect world).take (Attempt.stop (hook.prospect world))).zipIdx.flatMap
        (fun (a, i) ↦ (hook.armed world).passage i a) ++
      (hook.armed world).stopping (Attempt.stop (hook.prospect world)) a := by
  obtain ⟨w, hwalks, hrun⟩ := exists_run_eq world hplan hstate
  have htrace := hwalks.trace_eq
  rw [prospect, ← attempts_armed hook world] at hstop ⊢
  have hfinale : (hook.armed world).finale w.ending = [] := by
    rcases hwalks.of_stop_eq_some hstop with ⟨e, -, hending, -⟩ | ⟨-, hending, -⟩ <;>
      rw [hending] <;> rfl
  rw [hrun, htrace, hstop, hfinale, List.append_nil, Nat.zero_add, List.append_assoc]

section Listening

variable (hlisten : hook.context.listening = true)

include hlisten

theorem sent_of_all_pass
    (hstop : (hook.prospect world)[Attempt.stop (hook.prospect world)]? = none) :
    (hook.run world).trace.sent = hook.told world ++
      [.of (.build (.hookCompleted hook.context.name hook.plan.length
          (.total ((hook.prospect world).map fun a ↦ a.reply.elapsed))))
        (some (hook.run world).subject.context.runId)] := by
  rw [← armed_listening hook world] at hlisten
  rw [run_trace_of_all_pass world hplan hstate hstop, Trace.sent_append, Trace.sent_append,
    sent_overture hlisten, sent_passages hlisten, sent_emit hlisten, run_context, told,
    run_context, armed_plan, armed_name]
  rfl

theorem sent_of_stop {a : Attempt}
    (hstop : (hook.prospect world)[Attempt.stop (hook.prospect world)]? = some a) :
    (hook.run world).trace.sent = hook.told world ++
      ((hook.armed world).stopping (Attempt.stop (hook.prospect world)) a).sent := by
  rw [← armed_listening hook world] at hlisten
  rw [run_trace_of_stop world hplan hstate hstop, Trace.sent_append, Trace.sent_append,
    sent_overture hlisten, sent_passages hlisten, told, run_context, armed_plan, armed_name]
  rfl

end Listening

theorem run_fits : (hook.run world).trace.Fits (hook.run world).subject.context.runId := by
  obtain ⟨w, hwalks, hrun⟩ := exists_run_eq world hplan hstate
  rw [run_context, hrun]
  exact .append (.append (hook.armed world).fits_overture hwalks.fits)
    ((hook.armed world).fits_finale _)

theorem run_stays (hstay : ∀ a ∈ (hook.prospect world).take
      (Attempt.stop (hook.prospect world) + 1), .hangUp ∉ a.reply.actions) :
    (hook.run world).trace.Stays := by
  obtain ⟨w, hwalks, hrun⟩ := exists_run_eq world hplan hstate
  rw [prospect, ← attempts_armed hook world] at hstay
  rw [hrun]
  exact .append (.append (hook.armed world).stays_overture (hwalks.stays hstay))
    ((hook.armed world).stays_finale _)

end Call

/-- What comes through the channel in one call, in order, while somebody listens. The step `k` is
the first that does not pass, if there is one. -/
theorem run_sent (hook : Hook σ) (world : World σ) (hplan : hook.plan.steps ≠ [])
    (hstate : ∀ step, hook.state ≠ .running step) (hlisten : hook.context.listening = true) :
    let attempts := hook.attempts hook.plan.steps world.tools
    let k := Attempt.stop attempts
    let n := hook.plan.length
    let e := hook.run world
    let id := e.subject.context.runId
    let tell := fun event ↦ Message.of (.build event) (some id)
    let before := tell (.hookStarted hook.context.name n) ::
      (attempts.take k).zipIdx.flatMap fun (a, i) ↦ a.completed hook.plan id i
    e.trace.asked = (attempts.take (k + 1)).map (fun a ↦ hook.plan.command a.step) ∧
      (match attempts[k]? with
      | none => ∃ report, e.ending = .ok report ∧
          e.trace.sent = before ++ [tell (.hookCompleted hook.context.name n report.duration)]
      | some a =>
        (a.reply.answer = .never → e.trace.sent = before ++ a.underWay hook.plan id k) ∧
        (a.reply.answer ≠ .never → ∃ command exitCode detail,
          let error := Error.build (.stepFailed command exitCode detail)
          e.ending = .fail error ∧
          e.trace.sent = before ++ a.underWay hook.plan id k ++
            [tell (.stepFailed k (hook.plan.command a.step).text exitCode (n - k - 1)
              error.failure), tell (.hookFailed hook.context.name error.failure)])) ∧
      (∀ m ∈ e.trace.sent, m.Fits id) ∧
      ((∀ a ∈ attempts.take (k + 1), .hangUp ∉ a.reply.actions) →
        e.trace.received = e.trace.sent) := by
  intro attempts k n e id tell before
  have hid : (hook.armed world).context.runId = id :=
    congrArg HookContext.runId (hook.run_context world).symm
  have harmed : (hook.armed world).context.listening = true := by rwa [armed_listening]
  refine ⟨?_, ?_, run_fits world hplan hstate, fun h ↦ ?_⟩
  · rw [run_asked world hplan hstate, ← hook.map_step_attempts hook.plan.steps world.tools,
      ← List.map_take, List.map_map]
    rfl
  · cases hk : attempts[k]? with
    | none =>
      obtain ⟨hending, -⟩ := run_of_all_pass world hplan hstate hk
      exact ⟨_, hending, sent_of_all_pass world hplan hstate hlisten hk⟩
    | some a =>
      have hsent := sent_of_stop world hplan hstate hlisten hk
      rcases run_of_stop world hplan hstate hk with ⟨err, hf, hending, -⟩ | ⟨hn, hending, -⟩
      · obtain ⟨command, detail, rfl⟩ := Attempt.failure_eq_stepFailed hf
        refine ⟨fun hn ↦ absurd hn (Attempt.ne_never_of_failure hf), fun _ ↦
          ⟨command, a.exitCode, detail, hending, ?_⟩⟩
        rw [sent_stopping_of_failure harmed _ hf, hid, armed_plan, armed_name,
          ← List.append_assoc] at hsent
        exact hsent
      · refine ⟨fun _ ↦ ?_, fun hne ↦ absurd hn hne⟩
        rw [sent_stopping_of_never harmed _ hn, hid, armed_plan] at hsent
        exact hsent
  · exact Trace.received_eq_sent (run_stays world hplan hstate h)

theorem run_sent_of_exit_code :
    let hook := ofTargets ["lib", "app", "doc"] .idle
    let linking := Event.general ⟨"linking", .empty⟩
    let world := World.ofScript
      [⟨[], .ended (.ofCode 0), .zero⟩, ⟨[.emit linking], .ended (.ofCode 2), .zero⟩]
    let tell := fun event ↦ Message.of event (some "run-0")
    hook.plan.steps ≠ [] ∧ (∀ step, hook.state ≠ .running step) ∧
      hook.context.listening = true ∧
      ∃ failure, (hook.run world).trace.sent =
        [tell (.build (.hookStarted "build_ext" 3)), tell (.build (.stepStarted 0 "make lib")),
          tell (.build (.stepCompleted 0 "make lib" 0 .zero)),
          tell (.build (.stepStarted 1 "make app")), tell linking,
          tell (.build (.stepFailed 1 "make app" (some 2) 1 failure)),
          tell (.build (.hookFailed "build_ext" failure))] := by
  intro hook linking world tell
  have hplan : hook.plan.steps ≠ [] := List.cons_ne_nil _ _
  have hready : ∀ step, hook.state ≠ .running step := fun _ h ↦ HookState.noConfusion h
  obtain ⟨-, ⟨-, hfailed⟩, -, -⟩ := run_sent hook world hplan hready rfl
  obtain ⟨command, exitCode, detail, hending, hsent⟩ := hfailed nofun
  cases hending
  exact ⟨hplan, hready, rfl, _, hsent⟩

end Hook

end BuildHook
