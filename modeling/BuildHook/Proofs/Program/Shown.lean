import Mathlib.Data.List.Forall2
import BuildHook.Proofs.Hook.Stream
import BuildHook.Proofs.Program.ExitStatus

namespace BuildHook

/-- The executor tells nothing of its own but remarks. -/
def Executor.Unobtrusive {σ : Type} (executor : Executor σ) : Prop :=
  ∀ tools command, ∀ e ∈ Action.events (executor tools command).1.actions, ∃ d, e = .general d

theorem Host.unobtrusive_executor {τ : Type} (h : Host) (programs : Programs τ) :
    (h.executor programs).Unobtrusive := by
  intro processes c e he
  unfold executor at he
  cases hprepare : h.prepare c with
  | error fault =>
    rw [hprepare] at he
    exact ⟨_, List.mem_singleton.1 he⟩
  | ok invocation =>
    rw [hprepare] at he
    exact ⟨_, List.mem_singleton.1 he⟩

namespace Work

variable {α : Type}

theorem sends_before (e : Effect) (w : Work α) :
    (w.before e).sends.flatten = Trace.sent [e] ++ w.sends.flatten := by
  cases w with
  | ready done result =>
    simp only [before, sends, stretches, List.map_cons, List.flatten_cons, ← List.append_assoc,
      ← Trace.sent_append, List.singleton_append]
  | pending done rest =>
    simp only [before, sends, stretches, List.map_cons, List.flatten_cons, ← List.append_assoc,
      ← Trace.sent_append, List.singleton_append]

theorem sends_ofTrace (a : α) (t : Trace) : (ofTrace a t).sends.flatten = Trace.sent t := by
  induction t with
  | nil => rfl
  | cons e t ih =>
    have hsent : Trace.sent (e :: t) = Trace.sent [e] ++ Trace.sent t := by
      rw [← Trace.sent_append, List.singleton_append]
    rw [hsent, ← ih]
    cases e with
    | wait => rfl
    | _ => exact sends_before _ _

end Work

def Event.totalSteps? : Event → Option Nat
  | .build (.hookStarted _ total) => some total
  | _ => none

namespace StatusDisplay

def lines : StatusDisplay → List Message → List String
  | _, [] => []
  | d, m :: rest => (d.handle m.event).2.toList ++ (d.handle m.event).1.lines rest

theorem failedLine_eq (command : String) (exitCode : Option Int32) (skipped : Nat) :
    failedLine command exitCode skipped =
      command ++ " failed (" ++ statusText exitCode ++ ")" ++
        if 0 < skipped then ", skipping " ++ toString skipped ++ " remaining step(s)" else "" := by
  cases skipped with
  | zero => rfl
  | succ skipped => rw [failedLine, if_neg (Nat.succ_ne_zero _), if_pos (Nat.succ_pos _)]

theorem lines_of_quiet {d : StatusDisplay} (h : d.quiet = true) (l : List Message) :
    d.lines l = [] := by
  induction l with
  | nil => rfl
  | cons m l ih =>
    have hhandle : d.handle m.event = (d, none) := by
      simp only [handle, h, ↓reduceIte]
    rw [lines, hhandle, ih]
    rfl

def startedLines (d : StatusDisplay) (steps : List Step) (index : Nat) : List String :=
  (steps.zipIdx index).map fun (step, i) ↦ d.style .bold (startedLine d.total i step.text)

theorem startedLines_take {d : StatusDisplay} {steps : List Step} {step : Step} {k : Nat}
    (h : steps[k]? = some step) :
    d.startedLines (steps.take (k + 1)) 0 =
      d.startedLines (steps.take k) 0 ++ [d.style .bold (startedLine d.total k step.text)] := by
  have hlength : (steps.take k).length = k :=
    List.length_take_of_le (Nat.le_of_lt (List.getElem?_eq_some_iff.1 h).1)
  rw [List.take_add_one, h, startedLines, startedLines, List.zipIdx_append, List.map_append,
    hlength, Nat.zero_add]
  rfl

section Loud

variable {d : StatusDisplay} (h : d.quiet = false)

include h

theorem lines_hookStarted (hook : String) (total : Nat) (id : Option String)
    (rest : List Message) :
    d.lines (.of (.build (.hookStarted hook total)) id :: rest) =
      { d with total }.lines rest := by
  have hhandle : d.handle (.build (.hookStarted hook total)) = ({ d with total }, none) := by
    simp [handle, h]
  rw [lines, Message.of, hhandle]
  rfl

/-- Only the start of a run changes the display. -/
theorem lines_cons {e : Event} (he : e.totalSteps? = none) (id : Option String)
    (rest : List Message) : d.lines (.of e id :: rest) = (d.line e).toList ++ d.lines rest := by
  have hhandle : d.handle e = (d, d.line e) := by
    unfold handle
    rw [h, if_neg Bool.false_ne_true]
    split
    · exact absurd he (Option.some_ne_none _)
    · rfl
  rw [lines, Message.of, hhandle]

theorem lines_remarks {l : List Event} (hl : ∀ e ∈ l, ∃ remark, e = .general remark)
    (id : Option String) (rest : List Message) :
    d.lines (l.map (.of · id) ++ rest) = d.lines rest := by
  induction l with
  | nil => rfl
  | cons e l ih =>
    rw [List.forall_mem_cons] at hl
    obtain ⟨⟨remark, rfl⟩, hl⟩ := hl
    rw [List.map_cons, List.cons_append, lines_cons h rfl, ih hl]
    rfl

theorem lines_underWay {a : Attempt}
    (ha : ∀ e ∈ Action.events a.reply.actions, ∃ remark, e = .general remark)
    (plan : Plan) (id : String) (index : Nat) (rest : List Message) :
    d.lines (a.underWay plan id index ++ rest) =
      d.style .bold (startedLine d.total index a.step.text) :: d.lines rest := by
  rw [Attempt.underWay, Plan.command_text, List.cons_append, lines_cons h rfl,
    lines_remarks h ha]
  rfl

theorem lines_completed {l : List Attempt}
    (hl : ∀ a ∈ l, ∀ e ∈ Action.events a.reply.actions, ∃ remark, e = .general remark)
    (plan : Plan) (id : String) (index : Nat) (rest : List Message) :
    d.lines ((l.zipIdx index).flatMap (fun (a, i) ↦ a.completed plan id i) ++ rest) =
      d.startedLines (l.map Attempt.step) index ++ d.lines rest := by
  induction l generalizing index with
  | nil => rfl
  | cons a l ih =>
    rw [List.forall_mem_cons] at hl
    obtain ⟨ha, hl⟩ := hl
    -- nothing is shown of the completion
    have hcompleted : a.completed plan id index = a.underWay plan id index ++
        [.of (.build (.stepCompleted index a.step.text 0 a.reply.elapsed)) (some id)] := by
      rw [Attempt.completed, Plan.command_text]
    rw [List.zipIdx_cons, List.flatMap_cons, List.append_assoc]
    dsimp only
    rw [hcompleted, List.append_assoc, lines_underWay h ha, List.singleton_append,
      lines_cons h rfl, ih hl]
    rfl

end Loud

end StatusDisplay

namespace Notice

def visible (l : List Notice) : List Notice := l.filter fun
  | .log _ => false
  | _ => true

def ofEnding {α : Type} : Ending α → List Notice
  | .done (.error e) => [.report (.work e)]
  | _ => []

theorem status_notMem_ofEnding {α : Type} (line : String) (ending : Ending α) :
    .status line ∉ ofEnding ending := by
  cases ending <;> simp [ofEnding, Ending.ok, Ending.fail]

/-- What is written for a notice. A log record is written if the filter lets it through. -/
def Writes (l : Logging) (out : String) : Notice → Prop
  | log r => if l.filter.enables r then ∃ time, out = r.write l.style time else out = ""
  | status line => out = line ++ "\n"
  | report a => out = "Error: " ++ a.report ++ "\n"

def WriteAll (l : Logging) (notices : List Notice) (out : String) : Prop :=
  ∃ texts, List.Forall₂ (Writes l) texts notices ∧ out = String.join texts

theorem writes_text (l : Logging) (time : String) (n : Notice) : Writes l (n.text l time) n := by
  cases n with
  | log r =>
    rw [Writes, text]
    split
    · exact ⟨time, rfl⟩
    · rfl
  | status line => rfl
  | report a => rfl

theorem writeAll_texts (l : Logging) (clock : Nat → String) (notices : List Notice) :
    WriteAll l notices (texts l clock notices) := by
  refine ⟨_, ?_, rfl⟩
  rw [List.forall₂_map_left_iff]
  generalize 0 = start
  induction notices generalizing start with
  | nil => exact .nil
  | cons n notices ih => exact .cons (writes_text l (clock start) n) (ih (start + 1))

theorem WriteAll.visible {l : Logging} {notices : List Notice} {out : String}
    (hquiet : ∀ r, .log r ∈ notices → l.filter.enables r = false) (h : WriteAll l notices out) :
    WriteAll l (visible notices) out := by
  obtain ⟨texts, htexts, rfl⟩ := h
  induction htexts with
  | nil => exact ⟨[], .nil, rfl⟩
  | @cons text n texts notices htext _ ih =>
    obtain ⟨shown, hshown, hjoin⟩ := ih fun r hr ↦ hquiet r (List.mem_cons_of_mem n hr)
    rw [String.join_cons, hjoin]
    cases n with
    | log r =>
      obtain rfl : text = "" := by simpa [Writes, hquiet r List.mem_cons_self] using htext
      exact ⟨shown, hshown, String.empty_append⟩
    | status line => exact ⟨text :: shown, .cons htext hshown, (String.join_cons ..).symm⟩
    | report a => exact ⟨text :: shown, .cons htext hshown, (String.join_cons ..).symm⟩

theorem visible_append (l l' : List Notice) : visible (l ++ l') = visible l ++ visible l' :=
  List.filter_append _ _

theorem visible_map_log (l : List LogRecord) : visible (l.map .log) = [] := by
  simp [visible]

/-- The lines depend only on the messages that are handled, in their order. -/
theorem visible_ofTurns (messageId : Nat → String) (d : StatusDisplay) (n : Nat)
    (turns : List Turn) :
    visible (ofTurns messageId d n turns) = (d.lines (Turn.handled turns)).map .status := by
  induction turns generalizing d n with
  | nil => rfl
  | cons t turns ih =>
    cases t with
    | poll => exact ih d n
    | act e =>
      cases e with
      | log r => exact ih d n
      | _ => exact ih d n
    | handle m =>
      have hlines : d.lines (Turn.handled (.handle m :: turns)) =
          (d.handle m.event).2.toList ++ (d.handle m.event).1.lines (Turn.handled turns) := rfl
      rw [hlines, List.map_append, ← ih (d.handle m.event).1 (n + 1), ofTurns, visible_append]
      cases (d.handle m.event).2 with
      | none => rfl
      | some line => rfl

end Notice

theorem Attempt.exists_failure {a : Attempt} (hnot : a.passes = false)
    (hne : a.reply.answer ≠ .never) :
    ∃ command detail, a.failure = some (.stepFailed command a.exitCode detail) := by
  rcases a.passes_or_fails_or_hangs with hp | ⟨e, hf⟩ | hn
  · exact absurd (hnot.symm.trans hp) Bool.false_ne_true
  · obtain ⟨command, detail, rfl⟩ := failure_eq_stepFailed hf
    exact ⟨command, detail, hf⟩
  · exact absurd hn hne

namespace Hook

variable {σ : Type} {hook : Hook σ}

theorem unobtrusive_of_mem_attempts (hquiet : hook.executor.Unobtrusive) {steps : List Step}
    {tools : σ} {a : Attempt} (ha : a ∈ hook.attempts steps tools) :
    ∀ e ∈ Action.events a.reply.actions, ∃ remark, e = .general remark := by
  obtain ⟨tools, h⟩ := exists_eq_attempt ha
  rw [h]
  exact hquiet tools _

theorem lines_told (hquiet : hook.executor.Unobtrusive) (world : World σ) (colored : Bool)
    (rest : List Message) :
    let d := StatusDisplay.mk false colored hook.plan.length
    (StatusDisplay.create false colored).lines (hook.told world ++ rest) =
      d.startedLines (hook.plan.steps.take (Attempt.stop (hook.prospect world))) 0 ++
        d.lines rest := by
  intro d
  have hpassed : ∀ a ∈ (hook.prospect world).take (Attempt.stop (hook.prospect world)),
      ∀ e ∈ Action.events a.reply.actions, ∃ remark, e = .general remark :=
    fun a ha ↦ unobtrusive_of_mem_attempts hquiet (List.mem_of_mem_take ha)
  -- the start of the run tells the number of steps, before there is any line
  rw [told, List.cons_append, StatusDisplay.lines_hookStarted rfl,
    StatusDisplay.lines_completed rfl hpassed, List.map_take, map_step_attempts]
  rfl

theorem lines_stopping (hlisten : hook.context.listening = true) {a : Attempt}
    (ha : ∀ e ∈ Action.events a.reply.actions, ∃ remark, e = .general remark)
    {d : StatusDisplay} (hd : d.quiet = false) (index : Nat) :
    d.lines (hook.stopping index a).sent =
      d.style .bold (StatusDisplay.startedLine d.total index a.step.text) ::
        match a.failure with
        | some e => [d.style .red (StatusDisplay.failedLine a.step.text (exitCodeOf (.build e))
            (hook.plan.length - index - 1))]
        | none => [] := by
  rw [stopping, Trace.sent_append, sent_opening hlisten, StatusDisplay.lines_underWay hd ha]
  cases a.failure with
  | none => rfl
  | some e =>
    rw [sent_reportFailure hlisten, StatusDisplay.lines_cons hd rfl,
      StatusDisplay.lines_cons hd rfl, Plan.command_text]
    rfl

end Hook

namespace Surroundings

variable {σ : Type} (s : Surroundings σ) (p : Plan) (world : World σ)

/-- What is shown of a phase and of how it ends. -/
def shown (json : Bool) (phase : Phase) : List Notice :=
  Notice.visible ((s.runPhase json p phase world).2.2 ++
    (conclude json ((s.runPhase json p phase world).1.map .phase)).2.notices)

theorem visible_conclude (json : Bool) (phase : Phase) (ending : Ending HookReport) :
    Notice.visible (conclude json
        (ending.map fun report ↦ .phase ⟨phase, [report]⟩)).2.notices =
      Notice.ofEnding ending := by
  cases ending with
  | ok report => cases json <;> rfl
  | fail e => rfl
  | pending => rfl

/-- The loop handles all that is sent, so the lines are those of what the hook sends. -/
theorem shown_eq (json : Bool) (phase : Phase) :
    let e := (s.hook p world).run world.draw.2
    s.shown p world json phase =
      ((StatusDisplay.create json s.colored).lines
        (Trace.sent e.trace ++ Trace.sent (phase.closing true e.ending))).map .status ++
      Notice.ofEnding e.ending := by
  intro e
  have hsent : Trace.sent ((s.lifecycle p world).1.runPhase phase world.draw.2).trace =
      Trace.sent e.trace ++ Trace.sent (phase.closing true e.ending) := s.sent_eq p world phase
  obtain ⟨hending, -, -⟩ := s.runPhase_eq p world json phase
  have hlines : Notice.visible (s.runPhase json p phase world).2.2 =
      ((StatusDisplay.create json s.colored).lines
        (Trace.sent e.trace ++ Trace.sent (phase.closing true e.ending))).map .status := by
    rw [← hsent, ← Work.sends_ofTrace ((s.lifecycle p world).1.runPhase phase world.draw.2).ending,
      ← List.nil_append (Work.sends _).flatten, ← Work.handled_drive,
      ← Notice.visible_ofTurns s.messageId _ 0]
    exact Notice.visible_append _ _
  rw [shown, Notice.visible_append, hlines, hending, Ending.map_map]
  exact congrArg (_ ++ ·) (visible_conclude json phase e.ending)

def display : StatusDisplay := ⟨false, s.colored, p.length⟩

theorem step_of_getElem?_prospect {s : Surroundings σ} {p : Plan} {world : World σ} {index : Nat}
    {a : Attempt} (h : (s.prospect p world)[index]? = some a) : p.steps[index]? = some a.step := by
  rw [← (s.hook p world).map_step_attempts p.steps world.tools, List.getElem?_map]
  exact congrArg (Option.map Attempt.step) h

section Loud

variable {s} {p} {world} (hquiet : s.executor.Unobtrusive) (hplan : p.steps ≠ []) (phase : Phase)

include hquiet hplan

theorem shown_of_all_pass
    (h : (s.prospect p world)[Attempt.stop (s.prospect p world)]? = none) :
    s.shown p world false phase =
      ((s.display p).startedLines (p.steps.take (Attempt.stop (s.prospect p world) + 1)) 0 ++
        [(s.display p).style .green (StatusDisplay.completedLine p.length)]).map .status := by
  have hquiet : (s.hook p world).executor.Unobtrusive := hquiet
  have hlength : p.steps.length ≤ Attempt.stop (s.prospect p world) := by
    rw [← (s.hook p world).length_attempts p.steps world.tools]
    exact List.getElem?_eq_none_iff.1 h
  -- there is no step behind the last that passed
  have hall : p.steps.take (Attempt.stop (s.prospect p world) + 1) =
      p.steps.take (Attempt.stop (s.prospect p world)) := by
    rw [List.take_of_length_le hlength, List.take_of_length_le (Nat.le_succ_of_le hlength)]
  have hending := (Hook.run_of_all_pass world.draw.2 hplan (s.hook_ready p world) h).1
  have hsent := Hook.sent_of_all_pass world.draw.2 hplan (s.hook_ready p world) rfl h
  rw [hall, shown_eq, hending, hsent, List.append_assoc, Hook.lines_told hquiet]
  exact List.append_nil _

/-- The line for the step that does not pass comes last, but for the one on its failure. -/
theorem shown_of_stop {a : Attempt}
    (h : (s.prospect p world)[Attempt.stop (s.prospect p world)]? = some a) :
    s.shown p world false phase =
      ((s.display p).startedLines (p.steps.take (Attempt.stop (s.prospect p world) + 1)) 0).map
        .status ++
      match a.failure with
      | some e => [.status ((s.display p).style .red (StatusDisplay.failedLine a.step.text
          a.exitCode (p.length - Attempt.stop (s.prospect p world) - 1))),
        .report (.work (.build e))]
      | none => [] := by
  have hquiet : (s.hook p world).executor.Unobtrusive := hquiet
  have ha : ∀ e ∈ Action.events a.reply.actions, ∃ remark, e = .general remark :=
    Hook.unobtrusive_of_mem_attempts hquiet (List.mem_of_getElem? h)
  have hsent := Hook.sent_of_stop world.draw.2 hplan (s.hook_ready p world) rfl h
  rw [StatusDisplay.startedLines_take (step_of_getElem?_prospect h), shown_eq, hsent]
  rcases Hook.run_of_stop world.draw.2 hplan (s.hook_ready p world) h with
    ⟨e, hf, hending, -⟩ | ⟨hn, hending, -⟩
  · obtain ⟨command, detail, rfl⟩ := Attempt.failure_eq_stepFailed hf
    rw [hending, Phase.closing_fail, Trace.sent_nil, List.append_nil, Hook.lines_told hquiet,
      Hook.lines_stopping rfl ha rfl, hf]
    simp only [List.map_append, List.append_assoc]
    rfl
  · rw [hending, Phase.closing_pending, Trace.sent_nil, List.append_nil, Hook.lines_told hquiet,
      Hook.lines_stopping rfl ha rfl, Attempt.failure_eq_none_of_never hn]
    rfl

end Loud

theorem visible_perform {s : Surroundings σ} {r : Request} {c : Config}
    (h : s.Configured r.options c) (world : World σ) :
    Notice.visible (s.perform r world).notices =
      Notice.visible ((s.work r c world).2.2 ++
        (conclude r.options.json (s.work r c world).1).2.notices) := by
  rw [perform_eq_of_configured world h, List.append_assoc, Notice.visible_append,
    Notice.visible_map_log, List.nil_append]

theorem visible_perform_of_phase {s : Surroundings σ} {r : Request} {c : Config} {phase : Phase}
    (h : s.Configured r.options c) (hphase : r.verb.phase = some phase) (world : World σ) :
    Notice.visible (s.perform r world).notices =
      s.shown c.hook.plan world r.options.json phase := by
  rw [visible_perform h, work_eq_runPhase world hphase (usable_of_configured h)]
  rfl

theorem writeAll_stderr (s : Surroundings σ) {args : List OsText} {r : Request}
    (hargs : CommandLine.parse args = .ok r) (world : World σ) :
    Notice.WriteAll (.choose s.logFilter r.options) (s.perform r world).notices
      (s.run args world).stderr := by
  simp only [run, hargs]
  exact Notice.writeAll_texts _ _ _

/-- What a user sees of a phase, whatever the executor replies. The step `k` is the first that does
not pass, if there is one. All that is shown goes to standard error, and but for log records nothing
else does. -/
theorem phase_shown (s : Surroundings σ) (p : Plan) (world : World σ)
    (hquiet : s.executor.Unobtrusive) (hplan : p.steps ≠ []) (phase : Phase) :
    let attempts := s.prospect p world
    let k := Attempt.stop attempts
    let n := p.length
    let style := fun code text ↦
      if s.colored then "\x1b[" ++ code ++ "m" ++ text ++ "\x1b[0m" else text
    let started := (p.steps.take (k + 1)).zipIdx.map fun (step, i) ↦
      Notice.status (style "1"
        ("==> [" ++ toString (i + 1) ++ "/" ++ toString n ++ "] " ++
          (step.tool ++ " " ++ step.target)))
    (match attempts[k]? with
      | none => s.shown p world false phase = started ++
          [.status (style "32" ("build_ext finished: " ++ toString n ++ " step(s) succeeded"))]
      | some a => p.steps[k]? = some a.step ∧
        (a.reply.answer = .never → s.shown p world false phase = started) ∧
        (a.reply.answer ≠ .never → ∃ command detail,
          let error := BuildError.stepFailed command a.exitCode detail
          let status := match a.exitCode with
            | some code => "exit status " ++ toString code
            | none => "no exit status"
          s.shown p world false phase = started ++
            [.status (style "31" (a.step.tool ++ " " ++ a.step.target ++
              " failed (" ++ status ++ ")" ++
              if 0 < n - k - 1 then ", skipping " ++ toString (n - k - 1) ++ " remaining step(s)"
              else "")), .report (.work (.build error))] ∧
          ∀ logging out, Notice.Writes logging out (.report (.work (.build error))) ↔
            out = "Error: " ++ (error.message ++ "\n  Code: build.step_failed" ++
              "\n  Hint: See the build tool output above for the cause of the failure.") ++
              "\n")) ∧
      (∀ line, .status line ∉ s.shown p world true phase) ∧
      (∀ messageId colored number turns,
        Notice.visible (Notice.ofTurns messageId (.create true colored) number turns) = []) ∧
      (∀ logging out line, Notice.Writes logging out (.status line) ↔ out = line ++ "\n") ∧
      ∀ args r c, CommandLine.parse args = .ok r → s.Configured r.options c → c.hook.plan = p →
        r.verb.phase = some phase →
        let logging := Logging.choose s.logFilter r.options
        let notices := (s.perform r world).notices
        let stderr := (s.run args world).stderr
        Notice.visible notices = s.shown p world r.options.json phase ∧
          Notice.WriteAll logging notices stderr ∧
          ((∀ record, .log record ∈ notices → logging.filter.enables record = false) →
            Notice.WriteAll logging (s.shown p world r.options.json phase) stderr) := by
  intro attempts k n style started
  have hstarted (count : Nat) :
      ((s.display p).startedLines (p.steps.take count) 0).map Notice.status =
        (p.steps.take count).zipIdx.map fun (step, i) ↦ .status (style "1"
          ("==> [" ++ toString (i + 1) ++ "/" ++ toString n ++ "] " ++
            (step.tool ++ " " ++ step.target))) :=
    List.map_map
  refine ⟨?_, fun line hline ↦ ?_, fun messageId colored number turns ↦ ?_,
    fun _ _ _ ↦ Iff.rfl, ?_⟩
  · cases hk : attempts[k]? with
    | none =>
      rw [shown_of_all_pass hquiet hplan phase hk, List.map_append, hstarted]
      rfl
    | some a =>
      have hshown := shown_of_stop hquiet hplan phase hk
      rw [hstarted] at hshown
      refine ⟨step_of_getElem?_prospect hk, fun hn ↦ ?_, fun hne ↦ ?_⟩
      · rw [hshown, Attempt.failure_eq_none_of_never hn]
        exact List.append_nil _
      · have hnot : a.passes = false := (Attempt.getElem?_stop_eq_some_iff.1 hk).1
        obtain ⟨command, detail, hf⟩ := Attempt.exists_failure hnot hne
        refine ⟨command, detail, ?_, fun _ _ ↦ Iff.rfl⟩
        rw [hshown, hf, StatusDisplay.failedLine_eq]
        rfl
  · rw [shown_eq, StatusDisplay.lines_of_quiet rfl] at hline
    exact Notice.status_notMem_ofEnding line _ hline
  · rw [Notice.visible_ofTurns, StatusDisplay.lines_of_quiet rfl, List.map_nil]
  · rintro args r c hargs hc rfl hphase
    have hvisible := visible_perform_of_phase hc hphase world
    have hwritten := s.writeAll_stderr hargs world
    refine ⟨hvisible, hwritten, fun hfilter ↦ ?_⟩
    rw [← hvisible]
    exact hwritten.visible hfilter

theorem phase_shown_of_failing_target :
    let s := { failingOn "compiler" with logFilter := some (OsText.ofString "off") }
    let p := Config.default.hook.plan
    let world : World (Processes Unit) := ⟨⟨(), [], ""⟩, fun _ ↦ ""⟩
    s.executor.Unobtrusive ∧ p.steps ≠ [] ∧
      ∃ command detail,
        let error := BuildError.stepFailed command (some 2) detail
        s.shown p world false .install =
          [.status "==> [1/2] make compiler",
            .status "make compiler failed (exit status 2), skipping 1 remaining step(s)",
            .report (.work (.build error))] ∧
        (s.run [OsText.ofString "install"] world).stderr =
          String.join ["==> [1/2] make compiler\n",
            "make compiler failed (exit status 2), skipping 1 remaining step(s)\n",
            "Error: " ++ (error.message ++ "\n  Code: build.step_failed" ++
              "\n  Hint: See the build tool output above for the cause of the failure.") ++
              "\n"] := by
  intro s p world
  have hquiet : s.executor.Unobtrusive := Host.unobtrusive_executor _ _
  have hplan : p.steps ≠ [] := List.cons_ne_nil _ _
  have hanswers : (s.prospect p world).map (·.reply.answer) =
      [.ended (.ofCode 2), .ended (.ofCode 0)] := by decide +kernel
  simp only [List.map_eq_cons_iff, List.map_eq_nil_iff] at hanswers
  obtain ⟨a, _, hattempts, ha, b, _, rfl, -, rfl⟩ := hanswers
  have hstop : Attempt.stop [a, b] = 0 := by
    refine Attempt.stop_of_not_passes ?_
    rw [Attempt.passes, ha]
    rfl
  obtain ⟨hshown, -, -, hstatus, hwritten⟩ := s.phase_shown p world hquiet hplan .install
  rw [hattempts, hstop] at hshown
  obtain ⟨hstep, -, hfailed⟩ := hshown
  obtain ⟨command, detail, hshown, hreport⟩ := hfailed (by simp [ha])
  have hcommand : a.step.tool ++ " " ++ a.step.target = "make compiler" := by
    rw [← Option.some.inj hstep]
    rfl
  have hcode : a.exitCode = some 2 := by
    rw [Attempt.exitCode, ha]
    rfl
  have hstarted : "==> [" ++ toString (0 + 1) ++ "/" ++ toString 2 ++ "] " ++
      ("make" ++ " " ++ "compiler") = "==> [1/2] make compiler" := by decide +kernel
  have hended : "make compiler" ++ " failed (" ++ ("exit status " ++ toString (2 : Int32)) ++ ")" ++
      (", skipping " ++ toString 1 ++ " remaining step(s)") =
      "make compiler failed (exit status 2), skipping 1 remaining step(s)" := by decide +kernel
  have hlines : s.shown p world false .install =
      [.status "==> [1/2] make compiler",
        .status "make compiler failed (exit status 2), skipping 1 remaining step(s)",
        .report (.work (.build (.stepFailed command (some 2) detail)))] := by
    rw [hshown, hcommand, hcode, ← hstarted, ← hended]
    rfl
  have hc : s.Configured ⟨false, false, none⟩ .default := configured_failingOn "compiler" rfl
  obtain ⟨-, -, hstderr⟩ :=
    hwritten [OsText.ofString "install"] ⟨.install, ⟨false, false, none⟩⟩ _ rfl hc rfl rfl
  obtain ⟨texts, htexts, hjoin⟩ := hstderr fun _ _ ↦ rfl
  rw [hcode] at hreport
  simp only [hlines, List.forall₂_cons_right_iff, List.forall₂_nil_right_iff, hstatus,
    hreport] at htexts
  obtain ⟨_, _, rfl, ⟨_, _, rfl, ⟨_, _, rfl, rfl, rfl⟩, rfl⟩, rfl⟩ := htexts
  exact ⟨hquiet, hplan, command, detail, hlines, hjoin⟩

end Surroundings

end BuildHook
