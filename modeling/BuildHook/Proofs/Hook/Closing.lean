import BuildHook.Proofs.Hook.History
import BuildHook.Proofs.Hook.Stream
import BuildHook.Proofs.Plan

namespace BuildHook

def Event.frames : Event → Bool
  | .build (.hookStarted ..) | .build (.hookCompleted ..) | .build (.hookFailed ..) => true
  | _ => false

namespace Attempt

variable {a : Attempt} {plan : Plan} {id : String} {index : Nat} {m : Message}

theorem mem_events_of_underWay (hm : m ∈ a.underWay plan id index)
    (hframes : m.event.frames = true) : m.event ∈ Action.events a.reply.actions := by
  rcases List.mem_cons.1 hm with rfl | hm
  · nomatch hframes
  · obtain ⟨e, he, rfl⟩ := List.mem_map.1 hm
    exact he

theorem mem_events_of_completed (hm : m ∈ a.completed plan id index)
    (hframes : m.event.frames = true) : m.event ∈ Action.events a.reply.actions := by
  rcases List.mem_append.1 hm with hm | hm
  · exact mem_events_of_underWay hm hframes
  · obtain rfl := List.mem_singleton.1 hm
    nomatch hframes

end Attempt

namespace Hook

variable {σ : Type}

/-- What is told of a call goes from its start to its end. In between, whoever tells of a start or
an end is an executor. -/
def Closes (hook : Hook σ) (world : World σ) : Prop :=
  let tell := fun event ↦ Message.of (.build event) (some (hook.run world).subject.context.runId)
  ∃ between last,
    (hook.run world).trace.sent =
      tell (.hookStarted hook.context.name hook.plan.length) :: between ++ [tell last] ∧
    ((∃ duration, last = .hookCompleted hook.context.name hook.plan.length duration) ∨
      ∃ failure, last = .hookFailed hook.context.name failure) ∧
    ∀ m ∈ between, m.event.frames = true →
      ∃ a ∈ hook.prospect world, m.event ∈ Action.events a.reply.actions

variable {hook : Hook σ} (world : World σ)

theorem told_eq_cons (hook : Hook σ) : ∃ passed,
    hook.told world = .of (.build (.hookStarted hook.context.name hook.plan.length))
      (some (hook.run world).subject.context.runId) :: passed ∧
    ∀ m ∈ passed, m.event.frames = true →
      ∃ a ∈ hook.prospect world, m.event ∈ Action.events a.reply.actions := by
  refine ⟨_, rfl, fun m hm hframes ↦ ?_⟩
  obtain ⟨⟨a, i⟩, hmem, hm⟩ := List.mem_flatMap.1 hm
  have ha : a ∈ hook.prospect world :=
    List.mem_of_mem_take (List.fst_mem_of_mem_zipIdx hmem)
  exact ⟨a, ha, Attempt.mem_events_of_completed hm hframes⟩

section Ready

variable (hready : ∀ step, hook.state ≠ .running step) (hlisten : hook.context.listening = true)

include hready hlisten

theorem sent_of_failure (hplan : hook.plan.steps ≠ []) {a : Attempt} {e : BuildError}
    (hstop : (hook.prospect world)[Attempt.stop (hook.prospect world)]? = some a)
    (hf : a.failure = some e) :
    let tell := fun event ↦
      Message.of (.build event) (some (hook.run world).subject.context.runId)
    ∃ between, (hook.run world).trace.sent =
        tell (.hookStarted hook.context.name hook.plan.length) :: between ++
          [tell (.hookFailed hook.context.name e.failure)] ∧
      ∀ m ∈ between, m.event.frames = true →
        ∃ a ∈ hook.prospect world, m.event ∈ Action.events a.reply.actions := by
  intro tell
  obtain ⟨passed, htold, hpassed⟩ := hook.told_eq_cons world
  have harmed : (hook.armed world).context.listening = true := by rwa [armed_listening]
  have hsent := sent_of_stop world hplan hready hlisten hstop
  rw [htold, sent_stopping_of_failure harmed _ hf, armed_plan, armed_name, ← run_context] at hsent
  -- the failure of the step is told before that of the hook
  have hlast (first m n : Message) (l l' : List Message) :
      first :: l ++ (l' ++ [m, n]) = first :: (l ++ (l' ++ [m])) ++ [n] := by
    simp only [List.cons_append, List.append_assoc, List.nil_append]
  rw [hlast] at hsent
  refine ⟨_, hsent, fun m hm hframes ↦ ?_⟩
  rcases List.mem_append.1 hm with hm | hm
  · exact hpassed m hm hframes
  · rcases List.mem_append.1 hm with hm | hm
    · exact ⟨a, List.mem_of_getElem? hstop, Attempt.mem_events_of_underWay hm hframes⟩
    · obtain rfl := List.mem_singleton.1 hm
      nomatch hframes

theorem closes_of_steps (hplan : hook.plan.steps ≠ [])
    (hhang : ∀ a ∈ (hook.prospect world).take (Attempt.stop (hook.prospect world) + 1),
      a.reply.answer ≠ .never) : hook.Closes world := by
  cases hstop : (hook.prospect world)[Attempt.stop (hook.prospect world)]? with
  | none =>
    obtain ⟨passed, htold, hpassed⟩ := hook.told_eq_cons world
    have hsent := sent_of_all_pass world hplan hready hlisten hstop
    rw [htold] at hsent
    exact ⟨passed, _, hsent, .inl ⟨_, rfl⟩, hpassed⟩
  | some a =>
    rcases run_of_stop world hplan hready hstop with ⟨e, hf, -⟩ | ⟨hn, -⟩
    · obtain ⟨between, hsent, hbetween⟩ := sent_of_failure world hready hlisten hplan hstop hf
      exact ⟨between, _, hsent, .inr ⟨_, rfl⟩, hbetween⟩
    · have hmem : a ∈ (hook.prospect world).take (Attempt.stop (hook.prospect world) + 1) :=
        List.mem_of_getElem? (List.getElem?_take_of_lt (Nat.lt_succ_self _) ▸ hstop)
      exact absurd hn (hhang a hmem)

theorem sent_of_no_steps (hsteps : hook.plan.steps = []) :
    (hook.run world).trace.sent = [.of (.build (.hookStarted hook.context.name 0))
        (some (hook.run world).subject.context.runId)] := by
  have hlength : hook.plan.length = 0 := List.length_eq_zero_iff.2 hsteps
  have harmed : (hook.armed world).context.listening = true := by rwa [armed_listening]
  rw [(run_of_no_steps world hsteps hready).2.2, sent_overture harmed, armed_name, armed_plan,
    hlength, run_context]

theorem not_closes_of_no_steps (hsteps : hook.plan.steps = []) : ¬ hook.Closes world := by
  rintro ⟨between, last, hsent, -⟩
  rw [sent_of_no_steps world hready hlisten hsteps] at hsent
  have hnothing : [] = between ++ [_] := (List.cons.inj hsent).2
  exact List.append_ne_nil_of_right_ne_nil between (List.cons_ne_nil _ _) hnothing.symm

end Ready

/-- Plans have steps unless they were read from values that list none, and a call closes what it
opens just if its plan has steps. -/
theorem run_closes (hook : Hook σ) (world : World σ) {read : Json → Prop}
    (hmade : hook.plan.Made read) (hready : ∀ step, hook.state ≠ .running step)
    (hlisten : hook.context.listening = true)
    (hhang : ∀ a ∈ (hook.prospect world).take (Attempt.stop (hook.prospect world) + 1),
      a.reply.answer ≠ .never) :
    ((∀ v, read v → Plan.listed? v ≠ some []) → hook.plan.isEmpty = false) ∧
      (∀ v p, Plan.ofJson? v = some p → (p.isEmpty = true ↔ Plan.listed? v = some [])) ∧
      (hook.Closes world ↔ hook.plan.isEmpty = false) ∧
      (hook.plan.isEmpty = true →
        (hook.run world).trace.sent = [.of (.build (.hookStarted hook.context.name 0))
          (some (hook.run world).subject.context.runId)] ∧
        (hook.run world).ending = .fail (.internal "invalid hook transition: idle -> succeeded") ∧
        (hook.run world).subject.state = .idle) := by
  refine ⟨hmade.isEmpty_eq_false, fun v p ↦ Plan.isEmpty_iff_of_ofJson?, ?_, fun hempty ↦ ?_⟩
  · rw [Plan.isEmpty, List.isEmpty_eq_false_iff]
    constructor
    · intro hcloses hsteps
      exact not_closes_of_no_steps world hready hlisten hsteps hcloses
    · intro hplan
      exact closes_of_steps world hready hlisten hplan hhang
  · have hsteps : hook.plan.steps = [] := List.isEmpty_iff.1 hempty
    obtain ⟨hending, hstate, -⟩ := run_of_no_steps world hsteps hready
    exact ⟨sent_of_no_steps world hready hlisten hsteps, hending, hstate⟩

theorem run_closes_of_read_plan :
    let v : Json := .obj [("steps", .arr [.obj [("tool", .str "make"), ("target", .str "lib")]]),
      ("working_dir", .null)]
    let plan : Plan := ⟨[⟨"make", "lib"⟩], some (.ofString "/src")⟩
    let hook := { ofTargets [] .idle with plan }
    let world := World.ofScript [⟨[], .ended (.ofCode 1), .zero⟩]
    plan.Made (· = v) ∧ plan.isEmpty = false ∧ hook.Closes world := by
  intro v plan hook world
  have hread : Plan.ofJson? v = some ⟨[⟨"make", "lib"⟩], none⟩ := by decide +kernel
  have hmade : plan.Made (· = v) := by
    refine .runIn (.ofString "/src") (.ofJson ?_ hread)
    rfl
  have hready : ∀ step, hook.state ≠ .running step := fun _ h ↦ HookState.noConfusion h
  have hhang : ∀ a ∈ (hook.prospect world).take (Attempt.stop (hook.prospect world) + 1),
      a.reply.answer ≠ .never := by decide +kernel
  have hlisted : ∀ w, w = v → Plan.listed? w ≠ some [] := by
    rintro w rfl
    nofun
  obtain ⟨hsome, -, hcloses, -⟩ := run_closes hook world hmade hready rfl hhang
  have hplan : plan.isEmpty = false := hsome hlisted
  exact ⟨hmade, hplan, hcloses.2 hplan⟩

/-- A value that lists no steps is read as a plan, and a call of its hook starts what it never
ends. -/
theorem unclosed_of_read_plan :
    let v : Json := .obj [("steps", .arr []), ("working_dir", .null)]
    ∃ plan : Plan, Plan.ofJson? v = some plan ∧ plan.isEmpty = true ∧
      let hook := { ofTargets [] .idle with plan }
      let world := World.ofScript []
      (∀ step, hook.state ≠ .running step) ∧ hook.prospect world = [] ∧
        (hook.run world).trace.sent =
          [.of (.build (.hookStarted "build_ext" 0)) (some "run-0")] ∧
        ¬ hook.Closes world := by
  intro v
  refine ⟨⟨[], none⟩, by decide +kernel, rfl, ?_⟩
  intro hook world
  have hready : ∀ step, hook.state ≠ .running step := fun _ h ↦ HookState.noConfusion h
  refine ⟨hready, rfl, ?_, not_closes_of_no_steps world hready rfl rfl⟩
  exact sent_of_no_steps world hready rfl rfl

end Hook

end BuildHook
