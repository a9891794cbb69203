import BuildHook.Process.System
import BuildHook.Program.Session
import BuildHook.Proofs.Hook.History
import BuildHook.Proofs.Hook.Stream
import BuildHook.Proofs.Program.Loop
import BuildHook.Proofs.Text.Quoted

namespace BuildHook

def Event.tellsRun : Event → Bool
  | .general _ => false
  | .build (.phaseCompleted ..) => false
  | .build _ => true

namespace LogRecord

/-- Whether it is among the records that one finds by the id of the run. -/
def namesRun (run : String) (r : LogRecord) : Bool :=
  r.details.lookup "correlation" = some (.shown (Text.quotedOption (some run)))

variable (id : String) (m : Message)

theorem component_ofMessage : (ofMessage id m).component = .events := by
  unfold ofMessage
  split <;> rfl

theorem lookup_correlation_ofMessage :
    (ofMessage id m).details.lookup "correlation" =
      if m.event.tellsRun then some (.shown (Text.quotedOption m.correlation)) else none := by
  obtain ⟨level, source, correlation, event⟩ := m
  cases event with
  | general d => rfl
  | build e => cases e <;> rfl

theorem namesRun_ofMessage (run : String) :
    (ofMessage id m).namesRun run = (decide (m.correlation = some run) && m.event.tellsRun) := by
  rw [namesRun, lookup_correlation_ofMessage]
  cases m.event.tellsRun with
  | false => simp
  | true =>
    have hshown : Text.quotedOption m.correlation = Text.quotedOption (some run) ↔
        m.correlation = some run :=
      ⟨Text.quotedOption_injective, congrArg Text.quotedOption⟩
    simp [hshown]

end LogRecord

namespace Notice

def eventLog (l : List Notice) : List LogRecord := l.filterMap fun
  | .log r => if r.component = .events then some r else none
  | _ => none

theorem eventLog_append (l l' : List Notice) : eventLog (l ++ l') = eventLog l ++ eventLog l' :=
  List.filterMap_append

def recordOf (messageId : Nat → String) (p : Message × Nat) : LogRecord :=
  .ofMessage (messageId p.2) p.1

variable {messageId : Nat → String} {turns : List Turn}

theorem eventLog_handled (m : Message) (n : Nat) (line : Option String) :
    eventLog (.log (.ofMessage (messageId n) m) :: (line.map .status).toList) =
      [recordOf messageId (m, n)] := by
  have hcomponent := LogRecord.component_ofMessage (messageId n) m
  cases line <;> simp [eventLog, recordOf, hcomponent]

theorem eventLog_ofTurns (h : ∀ r, .act (.log r) ∈ turns → r.component ≠ .events)
    (d : StatusDisplay) (n : Nat) :
    eventLog (ofTurns messageId d n turns) =
      ((Turn.handled turns).zipIdx n).map (recordOf messageId) := by
  induction turns generalizing d n with
  | nil => rfl
  | cons t turns ih =>
    have hlater := ih fun r hr ↦ h r (List.mem_cons_of_mem _ hr)
    cases t with
    | poll => exact hlater d n
    | act e =>
      cases e with
      | log r =>
        have hother : eventLog [.log r] = [] := by simp [eventLog, h r List.mem_cons_self]
        rw [ofTurns, ← List.singleton_append, eventLog_append, hother]
        exact hlater d n
      | _ => exact hlater d n
    | handle m =>
      rw [ofTurns, eventLog_append, eventLog_handled, hlater]
      rfl

theorem filter_namesRun (messages : List (Message × Nat)) (run : String) :
    (messages.map (recordOf messageId)).filter (·.namesRun run) =
      ((messages.filter (·.1.correlation = some run)).filter (·.1.event.tellsRun)).map
        (recordOf messageId) := by
  rw [List.filter_map, List.filter_filter]
  refine congrArg _ (List.filter_congr fun p _ ↦ ?_)
  rw [Function.comp_apply, recordOf, LogRecord.namesRun_ofMessage, Bool.and_comm]

theorem filter_namesRun_eq_iff (messages : List (Message × Nat)) (run : String) :
    (messages.map (recordOf messageId)).filter (·.namesRun run) =
        (messages.filter (·.1.correlation = some run)).map (recordOf messageId) ↔
      ∀ p ∈ messages, p.1.correlation = some run → p.1.event.tellsRun = true := by
  have hall : (∀ p ∈ messages.filter (·.1.correlation = some run), p.1.event.tellsRun = true) ↔
      ∀ p ∈ messages, p.1.correlation = some run → p.1.event.tellsRun = true := by
    simp only [List.mem_filter, decide_eq_true_iff, and_imp]
  rw [filter_namesRun, ← hall, ← List.length_filter_eq_length_iff]
  constructor
  · intro h
    simpa using congrArg List.length h
  · intro h
    rw [List.filter_sublist.eq_of_length h]

end Notice

theorem Host.events_executor {τ : Type} (h : Host) (programs : Programs τ)
    (processes : Processes τ) (c : Command) :
    Action.events (h.executor programs processes c).1.actions = [spawning c] := by
  unfold executor
  split <;> rfl

namespace Trace

/-- The messages whose records do not tell the run. -/
def untold (t : Trace) : List Message := t.sent.filter fun m ↦ !m.event.tellsRun

theorem untold_append (t u : Trace) : untold (t ++ u) = untold t ++ untold u := by
  rw [untold, sent_append, List.filter_append]
  rfl

end Trace

namespace Hook

variable {τ : Type} {h : Host} {programs : Programs τ} {hook : Hook (Processes τ)}
  (hexecutor : hook.executor = h.executor programs) (hlisten : hook.context.listening = true)

include hlisten

theorem untold_emit {e : Event} (he : e.tellsRun = true) : (hook.context.emit e).untold = [] := by
  rw [Trace.untold, sent_emit hlisten]
  simp [Message.of, he]

theorem untold_reportFailure (index : Nat) (step : Step) (e : Error) :
    (hook.reportFailure index step e).untold = [] := by
  rw [Trace.untold, sent_reportFailure hlisten]
  rfl

theorem untold_overture : hook.overture.untold = [] := by
  rw [Trace.untold, sent_overture hlisten]
  rfl

theorem untold_finale (ending : Ending (List StepRecord)) : (hook.finale ending).untold = [] := by
  unfold finale
  split
  · exact untold_emit hlisten rfl
  · rfl

include hexecutor

theorem untold_opening (index : Nat) (step : Step) (tools : Processes τ) :
    let a := hook.attempt step tools
    (hook.opening index a).untold =
      (hook.opening index a).asked.map fun c ↦ .of (Host.spawning c) (some hook.context.runId) := by
  intro a
  have hevents : Action.events a.reply.actions = [Host.spawning (hook.plan.command step)] := by
    simp only [a, attempt, hexecutor]
    exact h.events_executor programs tools _
  rw [Trace.untold, sent_opening hlisten, asked_opening, Attempt.underWay, hevents]
  rfl

theorem Walks.untold_eq {index : Nat} {steps : List Step} {tools : Processes τ}
    {w : Walk (Processes τ)} (hwalks : hook.Walks index steps tools w) :
    w.trace.untold =
      w.trace.asked.map fun c ↦ .of (Host.spawning c) (some hook.context.runId) := by
  induction hwalks with
  | done => rfl
  | pass hp later ih =>
    rw [Trace.untold_append, passage, Trace.untold_append, untold_opening hexecutor hlisten,
      untold_emit hlisten rfl, List.append_nil, ih, Trace.asked_append, Trace.asked_append,
      HookContext.asked_emit, List.append_nil, List.map_append]
  | fail index rest hf =>
    rw [Trace.untold_append, untold_opening hexecutor hlisten, untold_reportFailure hlisten,
      Trace.asked_append, asked_reportFailure, List.append_nil, List.append_nil]
  | hang index rest hn => exact untold_opening hexecutor hlisten _ _ _

theorem untold_run (world : World (Processes τ)) :
    let e := hook.run world
    e.trace.untold =
      e.trace.asked.map fun c ↦ .of (Host.spawning c) (some e.subject.context.runId) := by
  intro e
  have harmed : (hook.armed world).context.listening = true := by rwa [armed_listening]
  rcases hook.running_or_ready with ⟨k, hk⟩ | hready
  · simp only [e, run_of_running hk]
    rfl
  · by_cases hplan : hook.plan.steps = []
    · have htrace : e.trace = (hook.armed world).overture :=
        (run_of_no_steps world hplan hready).2.2
      rw [htrace, untold_overture harmed, asked_overture]
      rfl
    · obtain ⟨w, hwalks, hrun⟩ := exists_run_eq world hplan hready
      have htold := hwalks.untold_eq ((armed_executor hook world).trans hexecutor) harmed
      simp only [e]
      rw [run_context, hrun, asked_course, Trace.untold_append, Trace.untold_append,
        untold_overture harmed, untold_finale harmed, htold, List.nil_append, List.append_nil]

end Hook

namespace Notice

/-- Every message is recorded once, in order, and its record tells the run that the message belongs
to, unless its event is a remark or the end of a phase. So the id of a run finds the records of all
its messages just if there are none of these. In a run on a host there are: one remark for each
command, before its process is started. -/
theorem eventLog_of_run (messageId : Nat → String) (d : StatusDisplay) (n : Nat) {turns : List Turn}
    (hturns : ∀ r, .act (.log r) ∈ turns → r.component ≠ .events) :
    let messages := (Turn.handled turns).zipIdx n
    let record := fun p : Message × Nat ↦ LogRecord.ofMessage (messageId p.2) p.1
    let log := eventLog (ofTurns messageId d n turns)
    log = messages.map record ∧
      (∀ p ∈ messages, ∀ run, (record p).namesRun run = true ↔
        p.1.correlation = some run ∧ p.1.event.tellsRun = true) ∧
      (∀ run, log.filter (·.namesRun run) =
        ((messages.filter (·.1.correlation = some run)).filter (·.1.event.tellsRun)).map record) ∧
      (∀ run, log.filter (·.namesRun run) =
          (messages.filter (·.1.correlation = some run)).map record ↔
        ∀ p ∈ messages, p.1.correlation = some run → p.1.event.tellsRun = true) ∧
      ∀ {τ : Type} (h : Host) (programs : Programs τ) (hook : Hook (Processes τ))
        (world : World (Processes τ)), hook.executor = h.executor programs →
        hook.context.listening = true →
        let e := hook.run world
        e.trace.sent.filter (fun m ↦ !m.event.tellsRun) =
          e.trace.asked.map fun c ↦ .of (Host.spawning c) (some e.subject.context.runId) := by
  intro messages record log
  have hlog : log = messages.map record := eventLog_ofTurns hturns d n
  refine ⟨hlog, fun p _ run ↦ ?_, fun run ↦ ?_, fun run ↦ ?_, fun h programs hook world he hl ↦ ?_⟩
  · rw [LogRecord.namesRun_ofMessage, Bool.and_eq_true, decide_eq_true_iff]
  · rw [hlog]
    exact filter_namesRun messages run
  · rw [hlog]
    exact filter_namesRun_eq_iff messages run
  · exact Hook.untold_run he hl world

theorem eventLog_of_run_of_missing_tool :
    let host : Host := ⟨⟨[]⟩, [], []⟩
    let programs : Programs Unit := fun _ _ ↦ (⟨.ofCode 0, "", .zero⟩, ())
    let hook : Hook (Processes Unit) :=
      ⟨⟨[⟨"make", "lib"⟩], none⟩, host.executor programs, ⟨"build_ext", "run-1", true⟩, .idle⟩
    let world : World (Processes Unit) := ⟨⟨(), [], ""⟩, fun _ ↦ ""⟩
    let started := fun run ↦ Message.of (.build (.hookStarted "build_ext" 1)) (some run)
    let spawning := fun run ↦ Message.of (Host.spawning ⟨"make", ["lib"], none⟩) (some run)
    let turns := [.poll, .act (Hook.starting 0 "make lib"), .handle (started "run-1"),
      .handle (started "run-2"), .handle (spawning "run-1")]
    let log := eventLog (ofTurns (fun n ↦ "event-" ++ toString n) (.create true false) 0 turns)
    (∀ r, .act (.log r) ∈ turns → r.component ≠ .events) ∧
      log.length = 3 ∧
      log.filter (·.namesRun "run-1") = [.ofMessage "event-0" (started "run-1")] ∧
      log.filter (·.namesRun "run-2") = [.ofMessage "event-1" (started "run-2")] ∧
      (hook.run world).trace.sent.length = 5 ∧
      (hook.run world).trace.sent.filter (fun m ↦ !m.event.tellsRun) = [spawning "run-1"] := by
  intro host programs hook world started spawning turns log
  have hturns : ∀ r, .act (.log r) ∈ turns → r.component ≠ .events := by
    simp [turns, Hook.starting, Hook.record]
  obtain ⟨hlog, -, hselected, -, hhost⟩ := eventLog_of_run (fun n ↦ "event-" ++ toString n)
    (.create true false) 0 hturns
  have hsent := hhost host programs hook world rfl rfl
  refine ⟨hturns, congrArg List.length hlog, ?_, ?_, by decide +kernel, ?_⟩
  · exact (hselected "run-1").trans (by decide +kernel)
  · exact (hselected "run-2").trans (by decide +kernel)
  · exact hsent.trans (by decide +kernel)

/-- What two runs remark upon a process that both start cannot be told apart. -/
theorem eventLog_loses_spawning :
    let spawning := fun run ↦ Message.of (Host.spawning ⟨"make", ["compiler"], none⟩) (some run)
    let log := eventLog (ofTurns (fun n ↦ "event-" ++ toString n) (.create true false) 0
      [.handle (spawning "run-1"), .handle (spawning "run-2")])
    log.length = 2 ∧ log[0]? = log[1]? ∧ log.filter (·.namesRun "run-1") = [] ∧
      log.filter (·.namesRun "run-2") = [] :=
  ⟨rfl, rfl, rfl, rfl⟩

end Notice

end BuildHook
