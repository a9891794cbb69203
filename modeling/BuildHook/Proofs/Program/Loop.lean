import Mathlib.Logic.Relation
import BuildHook.Program.Work

namespace BuildHook

namespace Turn

theorem handled_append (l l' : List Turn) : handled (l ++ l') = handled l ++ handled l' :=
  List.filterMap_append

theorem handled_map_handle (l : List Message) : handled (l.map .handle) = l := by
  induction l with
  | nil => rfl
  | cons m l ih => rw [List.map_cons, ← List.singleton_append, handled_append, ih]; rfl

end Turn

namespace Work

variable {α : Type}

def result : Work α → α
  | ready _ result => result
  | pending _ rest => rest.result

def stretches : Work α → List Trace
  | ready done _ => [done]
  | pending done rest => done :: rest.stretches

def sends (w : Work α) : List (List Message) := w.stretches.map Trace.sent

def aftermath (done : Trace) : List Turn :=
  (done.filter fun e ↦ !isSend e).map .act ++ (Trace.sent done).map .handle

theorem handled_aftermath (done : Trace) : Turn.handled (aftermath done) = Trace.sent done := by
  have hacts : Turn.handled ((done.filter fun e ↦ !isSend e).map .act) = [] := by
    simp [Turn.handled]
  rw [aftermath, Turn.handled_append, hacts, Turn.handled_map_handle, List.nil_append]

theorem poll_notMem_aftermath (done : Trace) : .poll ∉ aftermath done := by
  simp [aftermath]

theorem turns_append_handle (done : Trace) :
    turns done ++ (Trace.sent done).map .handle = .poll :: aftermath done := rfl

theorem drive_eq (w : Work α) (queue : List Message) :
    w.drive queue =
      (queue.map .handle ++ w.stretches.flatMap (fun done ↦ .poll :: aftermath done),
        w.result) := by
  induction w, queue using Work.drive.induct with
  | case1 w m queue later result heq ih => rw [drive, ih]; rfl
  | case2 done result =>
    rw [drive, turns_append_handle, stretches, List.flatMap_singleton]
    rfl
  | case3 done rest later result heq ih =>
    have hpoll := turns_append_handle done
    rw [drive, ih, stretches, List.flatMap_cons, ← hpoll, List.append_assoc]
    rfl

theorem drive_result (w : Work α) (queue : List Message) : (w.drive queue).2 = w.result := by
  rw [drive_eq]

theorem handled_drive (w : Work α) (queue : List Message) :
    Turn.handled (w.drive queue).1 = queue ++ w.sends.flatten := by
  have hstretches (l : List Trace) :
      Turn.handled (l.flatMap fun done ↦ .poll :: aftermath done) = (l.map Trace.sent).flatten := by
    induction l with
    | nil => rfl
    | cons done l ih =>
      rw [List.flatMap_cons, Turn.handled_append, ih, List.map_cons, List.flatten_cons,
        ← handled_aftermath done]
      rfl
  rw [drive_eq, Turn.handled_append, Turn.handled_map_handle, hstretches, sends]

/-- At a poll, all that was sent in the polls before it has been handled. -/
theorem handled_before_poll {l : List Trace} {earlier later : List Turn}
    (h : l.flatMap (fun done ↦ .poll :: aftermath done) = earlier ++ .poll :: later) :
    Turn.handled earlier = ((l.map Trace.sent).take (earlier.count .poll)).flatten := by
  induction l generalizing earlier with
  | nil => simp at h
  | cons done l ih =>
    cases earlier with
    | nil => rfl
    | cons t earlier =>
      rw [List.flatMap_cons, List.cons_append, List.cons_append, List.cons.injEq] at h
      obtain ⟨rfl, h⟩ := h
      -- the next poll does not come before the messages of this one are handled
      obtain ⟨further, rfl, hrest⟩ : ∃ further, earlier = aftermath done ++ further ∧
          l.flatMap (fun done ↦ .poll :: aftermath done) = further ++ .poll :: later := by
        rcases List.append_eq_append_iff.1 h with ⟨further, hearlier, hrest⟩ | ⟨cut, hbody, hpoll⟩
        · exact ⟨further, hearlier, hrest⟩
        · cases cut with
          | nil => exact ⟨[], by rw [hbody, List.append_nil, List.append_nil], hpoll.symm⟩
          | cons t cut =>
            rw [List.cons_append, List.cons.injEq] at hpoll
            refine absurd ?_ (poll_notMem_aftermath done)
            rw [hbody, hpoll.1]
            exact List.mem_append_right _ List.mem_cons_self
      have hcount : (aftermath done).count .poll = 0 :=
        List.count_eq_zero.2 (poll_notMem_aftermath done)
      have hhandled : Turn.handled (.poll :: (aftermath done ++ further)) =
          Trace.sent done ++ Turn.handled further := by
        rw [← handled_aftermath done, ← Turn.handled_append]
        rfl
      rw [hhandled, ih hrest, List.count_cons_self, List.count_append, hcount, Nat.zero_add,
        List.map_cons, List.take_succ_cons, List.flatten_cons]

theorem result_before (e : Effect) (w : Work α) : (w.before e).result = w.result := by
  cases w <;> rfl

theorem result_ofTrace (a : α) (t : Trace) : (ofTrace a t).result = a := by
  induction t with
  | nil => rfl
  | cons e t ih =>
    cases e with
    | wait => exact ih
    | _ => exact (result_before _ _).trans ih

end Work

inductive Channel where
  | connected
  /-- The last sender is gone, which the loop has not come across. -/
  | disconnected
  /-- The loop has come to the end of the channel and listens no longer. -/
  | ended
  deriving DecidableEq

/-- A look at the channel finds nothing, so that the work has its turn. -/
def Channel.Idle (queue : List Message) : Channel → Prop
  | connected => queue = []
  | disconnected => False
  | ended => True

/-- A loop under way, with what it did so far. While it is not awake, it waits to be woken. -/
inductive Loop (α : Type) where
  | running (awake : Bool) (c : Channel) (work : Work α) (queue : List Message) (turns : List Turn)
  /-- The work is done, and what is left in the queue is handled. -/
  | draining (result : α) (queue : List Message) (turns : List Turn)
  | returned (result : α) (turns : List Turn)

namespace Loop

variable {α : Type}

def start (w : Work α) : Loop α := .running true .connected w [] []

/-- A loop that is awake looks at the channel first, and at the work if there is nothing in it. -/
inductive Step : Loop α → Loop α → Prop
  | handle {c : Channel} (hc : c ≠ .ended) (work : Work α) (m : Message) (queue : List Message)
      (turns : List Turn) :
      Step (running true c work (m :: queue) turns)
        (running true c work queue (turns ++ [.handle m]))
  | notice (work : Work α) (turns : List Turn) :
      Step (running true .disconnected work [] turns) (running true .ended work [] turns)
  | suspend {c : Channel} {queue : List Message} (hidle : c.Idle queue) (done : Trace)
      (rest : Work α) (turns : List Turn) :
      Step (running true c (.pending done rest) queue turns)
        (running false c rest (queue ++ Trace.sent done) (turns ++ Work.turns done))
  | complete {c : Channel} {queue : List Message} (hidle : c.Idle queue) (done : Trace)
      (result : α) (turns : List Turn) :
      Step (running true c (.ready done result) queue turns)
        (draining result (queue ++ Trace.sent done) (turns ++ Work.turns done))
  | wake (c : Channel) (work : Work α) (queue : List Message) (turns : List Turn) :
      Step (running false c work queue turns) (running true c work queue turns)
  /-- The last sender goes away. The work cannot send anything after that. -/
  | disconnect {work : Work α} (hsilent : work.sends.flatten = []) (awake : Bool)
      (queue : List Message) (turns : List Turn) :
      Step (running awake .connected work queue turns)
        (running awake .disconnected work queue turns)
  | drain (result : α) (m : Message) (queue : List Message) (turns : List Turn) :
      Step (draining result (m :: queue) turns) (draining result queue (turns ++ [.handle m]))
  | finish (result : α) (turns : List Turn) :
      Step (draining result [] turns) (returned result turns)

/-- The loop gets from one point to another, whatever others do meanwhile. -/
abbrev Reaches : Loop α → Loop α → Prop := Relation.ReflTransGen Step

/-- Without senders nothing is sent, and at the end of the channel nothing is left in it. -/
def Sound : Loop α → Prop
  | running _ c work queue _ =>
    (c ≠ .connected → work.sends.flatten = []) ∧ (c = .ended → queue = [])
  | _ => True

/-- All that the loop will have done, with the result, if it goes on undisturbed. -/
def outcome : Loop α → List Turn × α
  | running _ _ work queue turns => (turns ++ (work.drive queue).1, (work.drive queue).2)
  | draining result queue turns => (turns ++ queue.map .handle, result)
  | returned result turns => (turns, result)

def distance : Loop α → Nat
  | running awake c work queue _ =>
    4 * work.polls + work.sends.flatten.length + queue.length + (if awake then 0 else 1) +
      match c with
      | .connected => 2
      | .disconnected => 1
      | .ended => 0
  | draining _ queue _ => queue.length + 1
  | returned .. => 0

theorem queue_eq_nil_of_idle {c : Channel} {work : Work α} {queue : List Message}
    {turns : List Turn} (hidle : c.Idle queue) (hl : (running true c work queue turns).Sound) :
    queue = [] := by
  cases c with
  | connected => exact hidle
  | disconnected => exact hidle.elim
  | ended => exact hl.2 rfl

section Step

variable {l l' : Loop α} (h : l.Step l')

include h

theorem Step.sound (hl : l.Sound) : l'.Sound := by
  cases h with
  | handle hc => exact ⟨hl.1, fun hended ↦ absurd hended hc⟩
  | notice => exact ⟨fun _ ↦ hl.1 nofun, fun _ ↦ rfl⟩
  | suspend hidle done rest =>
    have hsilent (hc : _ ≠ Channel.connected) : Trace.sent done = [] ∧ rest.sends.flatten = [] :=
      List.append_eq_nil_iff.1 (hl.1 hc)
    refine ⟨fun hc ↦ (hsilent hc).2, fun hc ↦ ?_⟩
    subst hc
    rw [hl.2 rfl, (hsilent nofun).1]
    rfl
  | wake => exact hl
  | disconnect hsilent => exact ⟨fun _ ↦ hsilent, nofun⟩
  | complete | drain | finish => trivial

theorem Step.outcome_eq (hl : l.Sound) : l'.outcome = l.outcome := by
  cases h with
  | handle hc work m queue turns => simp [outcome, Work.drive]
  | suspend hidle done rest turns =>
    obtain rfl := queue_eq_nil_of_idle hidle hl
    simp [outcome, Work.drive]
  | complete hidle done result turns =>
    obtain rfl := queue_eq_nil_of_idle hidle hl
    simp [outcome, Work.drive]
  | drain result m queue turns => simp [outcome]
  | finish result turns => simp [outcome]
  | notice | wake | disconnect => rfl

theorem Step.distance_lt : l'.distance < l.distance := by
  cases h <;> simp [distance, Work.polls, Work.sends, Work.stretches] <;> omega

end Step

theorem exists_step (l : Loop α) :
    (∃ result turns, l = .returned result turns) ∨ ∃ l', l.Step l' := by
  cases l with
  | running awake c work queue turns =>
    right
    cases awake with
    | false => exact ⟨_, .wake c work queue turns⟩
    | true =>
      by_cases hidle : c.Idle queue
      · cases work with
        | ready done result => exact ⟨_, .complete hidle done result turns⟩
        | pending done rest => exact ⟨_, .suspend hidle done rest turns⟩
      · cases c with
        | connected =>
          obtain ⟨m, queue, rfl⟩ := List.exists_cons_of_ne_nil hidle
          have hc : Channel.connected ≠ .ended := nofun
          exact ⟨_, .handle hc work m queue turns⟩
        | disconnected =>
          cases queue with
          | nil => exact ⟨_, .notice work turns⟩
          | cons m queue =>
            have hc : Channel.disconnected ≠ .ended := nofun
            exact ⟨_, .handle hc work m queue turns⟩
        | ended => exact absurd trivial hidle
  | draining result queue turns =>
    right
    cases queue with
    | nil => exact ⟨_, .finish result turns⟩
    | cons m queue => exact ⟨_, .drain result m queue turns⟩
  | returned result turns => exact .inl ⟨result, turns, rfl⟩

theorem wellFounded_step : WellFounded fun l' l : Loop α ↦ l.Step l' :=
  Subrelation.wf (fun h ↦ h.distance_lt) (measure distance).wf

theorem sound_start (w : Work α) : (start w).Sound := ⟨fun h ↦ absurd rfl h, nofun⟩

/-- Wherever the loop gets to, it is on its way to what `Work.drive` says. -/
theorem Reaches.outcome_eq {w : Work α} {l : Loop α} (h : (start w).Reaches l) :
    l.Sound ∧ l.outcome = w.drive [] := by
  induction h with
  | refl => exact ⟨sound_start w, rfl⟩
  | tail _ step ih => exact ⟨step.sound ih.1, (step.outcome_eq ih.1).trans ih.2⟩

/-- The loop returns the result of its work, whatever others do, and it never waits in vain. By then
each message was handled once, in the order of sending, and before the poll after the one that sent
it, if there was another. -/
theorem delivers (w : Work α) :
    (∀ l, (start w).Reaches l → (∃ result turns, l = .returned result turns) ∨ ∃ l', l.Step l') ∧
    WellFounded (fun l' l : Loop α ↦ l.Step l') ∧
    ∀ result turns, (start w).Reaches (.returned result turns) →
      w.drive [] = (turns, result) ∧ result = w.result ∧
      Turn.handled turns = w.sends.flatten ∧
      ∀ earlier later, turns = earlier ++ .poll :: later →
        Turn.handled earlier = (w.sends.take (earlier.count .poll)).flatten := by
  refine ⟨fun l _ ↦ l.exists_step, wellFounded_step, fun result turns h ↦ ?_⟩
  have houtcome : (turns, result) = w.drive [] := h.outcome_eq.2
  have hresult : result = w.result := by
    rw [← w.drive_result [], ← houtcome]
  have hturns : turns = (w.drive []).1 := congrArg Prod.fst houtcome
  refine ⟨houtcome.symm, hresult, ?_, fun earlier later hpoll ↦ ?_⟩
  · rw [hturns, w.handled_drive, List.nil_append]
  · rw [hturns, w.drive_eq] at hpoll
    exact Work.handled_before_poll hpoll

theorem delivers_after_disconnect :
    let m := fun index ↦ Message.of (.build (.stepStarted index "make lib")) none
    let w : Work Nat := .pending [.send (m 0), .send (m 1)] (.pending [] (.ready [] 7))
    let turns := [.poll, .handle (m 0), .handle (m 1), .poll, .poll]
    (start w).Reaches (.returned 7 turns) ∧ w.drive [] = (turns, 7) ∧
      Turn.handled turns = [m 0, m 1] := by
  intro m w turns
  have hempty : Channel.connected.Idle [] := rfl
  have hleft : Channel.disconnected ≠ .ended := nofun
  have hdeaf : Channel.ended.Idle [] := trivial
  have hreaches : (start w).Reaches (.returned 7 turns) :=
    .head (.suspend hempty _ _ _) <| .head (.disconnect rfl _ _ _) <| .head (.wake _ _ _ _) <|
    .head (.handle hleft _ _ _ _) <| .head (.handle hleft _ _ _ _) <| .head (.notice _ _) <|
    .head (.suspend hdeaf _ _ _) <| .head (.wake _ _ _ _) <| .head (.complete hdeaf _ _ _) <|
    .single (.finish _ _)
  obtain ⟨hdrive, -, hhandled, -⟩ := (delivers w).2.2 7 turns hreaches
  exact ⟨hreaches, hdrive, hhandled⟩

end Loop

end BuildHook
