import Mathlib.Data.List.Forall2
import BuildHook.Proofs.Hook.Repeat
import BuildHook.Proofs.Lifecycle.Operation

namespace BuildHook

variable {σ : Type}

/-- The executor with its tools among those of others, under this key. -/
def Executor.at {τ : Type} (key : String) (e : Executor τ) : Executor (String → τ) :=
  fun tools c ↦ ((e (tools key) c).1, Function.update tools key (e (tools key) c).2)

namespace LifecycleCommand

def ask (command : LifecycleCommand σ) (tools : σ) (c : Command) : Option Reply × σ :=
  match command with
  | hook h => (some (h.executor tools c).1, (h.executor tools c).2)
  | _ => (none, tools)

def Repeats (R : σ → σ → Prop) (command : LifecycleCommand σ) : Prop :=
  ∀ tools tools' c, R tools tools' →
    (command.ask tools c).1.map Reply.untimed = (command.ask tools' c).1.map Reply.untimed ∧
      R (command.ask tools c).2 (command.ask tools' c).2

def inRun (id : String) : LifecycleCommand σ → LifecycleCommand σ
  | hook h => hook (h.inRun id)
  | command => command

variable (command : LifecycleCommand σ) (world : World σ)

theorem exists_inRun_eq : ∃ id, command.inRun id = command := by
  cases command with
  | hook h => exact ⟨h.context.runId, rfl⟩
  | _ => exact ⟨"", rfl⟩

theorem inRun_inRun (id id' : String) : (command.inRun id).inRun id' = command.inRun id' := by
  cases command <;> rfl

theorem exists_eq_inRun (id : String) : ∃ id', command = (command.inRun id).inRun id' := by
  obtain ⟨id', hid⟩ := command.exists_inRun_eq
  exact ⟨id', by rw [inRun_inRun, hid]⟩

theorem origin_inRun (id : String) : (command.inRun id).origin = command.origin := by
  cases command <;> rfl

theorem ask_next : (command.next world).ask = command.ask := by
  cases command with
  | builtin => rfl
  | hook h =>
    funext tools c
    have hexecutor := h.run_executor world
    simp only [next, finalize, run, ask, hexecutor]
  | custom c =>
    unfold next
    split <;> rfl

theorem tools_run :
    (command.run world).world.tools =
      (command.run world).trace.asked.foldl (fun tools c ↦ (command.ask tools c).2)
        world.tools := by
  cases command with
  | builtin => rfl
  | hook h => exact h.tools_run world
  | custom c => rfl

theorem tools_invoke (receiver : Receiver) :
    (command.invoke receiver world).world.tools =
      (command.invoke receiver world).trace.asked.foldl (fun tools c ↦ (command.ask tools c).2)
        world.tools := by
  rw [invoke]
  cases command.finalize with
  | error e => rfl
  | ok => exact command.tools_run world

section Repeated

variable {R : σ → σ → Prop} {command : LifecycleCommand σ} (h : command.Repeats R)
  {world world' : World σ} (htools : R world.tools world'.tools) (id : String)

include h htools

theorem run_inRun :
    Episode.Repeats (fun id later other ↦ later = other.inRun id) (command.run world)
      ((command.inRun id).run world') := by
  cases command with
  | builtin => exact ⟨rfl, id, ⟨rfl, rfl⟩, rfl⟩
  | hook hook =>
    have hexecutor : hook.executor.Repeats R := by
      intro tools tools' c htools
      obtain ⟨hreply, hnext⟩ := h tools tools' c htools
      exact ⟨Option.some.inj hreply, hnext⟩
    obtain ⟨hending, id', htrace, hsubject⟩ := Hook.run_inRun hexecutor htools id
    exact ⟨hending, id', htrace, congrArg LifecycleCommand.hook hsubject⟩
  | custom c => exact ⟨rfl, id, .nil id, rfl⟩

theorem invoke_inRun (receiver : Receiver) :
    Episode.Repeats (fun id later other ↦ later = other.inRun id) (command.invoke receiver world)
      ((command.inRun id).invoke receiver world') := by
  have hfinalize : (command.inRun id).finalize = command.finalize := by cases command <;> rfl
  have hskip : (command.inRun id).skip = command.skip.inRun id := by cases command <;> rfl
  obtain ⟨hending, id', htrace, hsubject⟩ := run_inRun h htools id
  rw [invoke, invoke, hfinalize]
  cases command.finalize with
  | error e =>
    obtain ⟨id', hid⟩ := command.skip.exists_eq_inRun id
    exact ⟨rfl, id', ⟨rfl, rfl⟩, hskip ▸ hid⟩
  | ok => exact ⟨hending, id', ⟨htrace.asked, htrace.sent⟩, hsubject⟩

end Repeated

end LifecycleCommand

def Registration.inRun (id : String) (r : Registration σ) : Registration σ :=
  { r with command := r.command.inRun id }

namespace Lifecycle

def ask (l : Lifecycle σ) (name : String) (tools : σ) (c : Command) : Option Reply × σ :=
  match l.table.get? name with
  | some r => r.command.ask tools c
  | none => (none, tools)

/-- The tools after requests, each made under the name that stands with it. -/
def toolsAfter (l : Lifecycle σ) (tools : σ) (asked : List (String × Command)) : σ :=
  asked.foldl (fun tools r ↦ (l.ask r.1 tools r.2).2) tools

/-- What is answered under a name depends on the requests that were made under it before. Those
under other names make no difference. -/
def AnswersOwn (l : Lifecycle σ) (name : String) (tools : σ) : Prop :=
  ∀ asked asked' c, asked.filter (·.1 = name) = asked'.filter (·.1 = name) →
    (l.ask name (l.toolsAfter tools asked) c).1.map Reply.untimed =
      (l.ask name (l.toolsAfter tools asked') c).1.map Reply.untimed

def AlikeUnder (l : Lifecycle σ) (name : String) (tools s t : σ) : Prop :=
  ∃ asked asked', asked.filter (·.1 = name) = asked'.filter (·.1 = name) ∧
    s = l.toolsAfter tools asked ∧ t = l.toolsAfter tools asked'

def session (l : Lifecycle σ) (world : World σ) :
    List String → List (String × Episode σ (Lifecycle σ) HookReport)
  | [] => []
  | name :: rest =>
    let e := l.runCommand name world
    (name, e) :: e.subject.session e.world rest

def leave (l : Lifecycle σ) (world : World σ) (names : List String) : Lifecycle σ × World σ :=
  names.foldl (fun s name ↦ ((s.1.runCommand name s.2).subject, (s.1.runCommand name s.2).world))
    (l, world)

variable {l : Lifecycle σ} {name key : String} {tools : σ}

theorem toolsAfter_append (asked more : List (String × Command)) :
    l.toolsAfter tools (asked ++ more) = l.toolsAfter (l.toolsAfter tools asked) more :=
  List.foldl_append

theorem ask_of_some {r : Registration σ} (h : l.table.get? name = some r) :
    l.ask name = r.command.ask := by
  funext tools c
  rw [ask, h]

theorem ask_of_none (h : l.table.get? name = none) (c : Command) :
    l.ask name tools c = (none, tools) := by
  rw [ask, h]

theorem ask_runCommand (l : Lifecycle σ) (name key : String) (world : World σ) :
    (l.runCommand name world).subject.ask key = l.ask key := by
  have hentry := get?_runCommand world l name key
  by_cases hkey : key = name
  · subst hkey
    rw [if_pos rfl] at hentry
    cases h : l.table.get? key with
    | none =>
      rw [h] at hentry
      funext tools c
      rw [ask_of_none hentry, ask_of_none h]
    | some r =>
      rw [h] at hentry
      rw [ask_of_some hentry, ask_of_some h]
      exact r.command.ask_next world
  · rw [if_neg hkey] at hentry
    funext tools c
    rw [ask, ask, hentry]

theorem tools_runCommand (l : Lifecycle σ) (name : String) (world : World σ) :
    (l.runCommand name world).world.tools =
      l.toolsAfter world.tools ((l.runCommand name world).trace.asked.map (name, ·)) := by
  rw [toolsAfter, List.foldl_map]
  cases h : l.table.get? name with
  | none =>
    rw [runCommand_of_none world h]
    rfl
  | some r =>
    dsimp only
    rw [ask_of_some h, runCommand_of_some world h]
    exact r.command.tools_invoke world _

theorem commandNames_eq_of_mem_iff {l l' : Lifecycle σ}
    (h : ∀ name, name ∈ l.commandNames ↔ name ∈ l'.commandNames) :
    l.commandNames = l'.commandNames := by
  have hnodup (m : Lifecycle σ) : m.commandNames.Nodup := by
    refine m.table.sorted.imp ?_
    intro a b hab heq
    subst heq
    exact String.lt_irrefl a hab
  have hperm := (List.perm_ext_iff_of_nodup (hnodup l) (hnodup l')).2 h
  exact hperm.eq_of_pairwise (fun a b _ _ hab hba ↦ absurd hba (String.lt_asymm hab)) l.table.sorted
    l'.table.sorted

theorem commandNames_runCommand (l : Lifecycle σ) (name : String) (world : World σ) :
    (l.runCommand name world).subject.commandNames = l.commandNames := by
  refine commandNames_eq_of_mem_iff fun key ↦ ?_
  have hperform := mem_commandNames_perform l key (.runCommand name world)
  have hregisters : (Operation.runCommand name world).registers key = false := rfl
  rw [hregisters, or_iff_left Bool.false_ne_true] at hperform
  exact hperform

theorem get?_runCommand_of_ne (l : Lifecycle σ) (h : key ≠ name) (world : World σ) :
    (l.runCommand name world).subject.table.get? key = l.table.get? key := by
  rw [get?_runCommand, if_neg h]

def SameEntry (name : String) (id : String) (l l' : Lifecycle σ) : Prop :=
  l.table.get? name = (l'.table.get? name).map (Registration.inRun id)

theorem repeats_runCommand {R : σ → σ → Prop} {l' : Lifecycle σ} {r : Registration σ} {id : String}
    (hl : l.table.get? name = some (r.inRun id)) (hl' : l'.table.get? name = some r)
    (h : (r.inRun id).command.Repeats R) {world world' : World σ}
    (htools : R world.tools world'.tools) :
    Episode.Repeats (SameEntry name) (l.runCommand name world) (l'.runCommand name world') := by
  have horigin : (r.inRun id).command.origin = r.command.origin := r.command.origin_inRun id
  -- the command of the one driver is that of the other under the id of another run
  obtain ⟨id', hid⟩ := r.command.exists_eq_inRun id
  have hcommand : (r.inRun id).command.inRun id' = r.command := hid.symm
  obtain ⟨hending, next, htrace, hsubject⟩ :=
    LifecycleCommand.invoke_inRun h htools id' ⟨r.serial, name, r.command.origin⟩
  rw [hcommand] at hending htrace hsubject
  rw [LifecycleCommand.invoke_subject, LifecycleCommand.invoke_subject] at hsubject
  refine ⟨?_, next, ?_, ?_⟩
  · rw [runCommand_of_some _ hl, runCommand_of_some _ hl', horigin]
    exact hending
  · rw [runCommand_of_some _ hl, runCommand_of_some _ hl', horigin]
    exact .log _ _ htrace
  · rw [SameEntry, get?_runCommand, get?_runCommand, if_pos rfl, if_pos rfl, hl, hl']
    exact congrArg (fun c ↦ some (Registration.mk r.serial c)) hsubject

theorem toolsAfter_eq_of_asks {l' : Lifecycle σ} (h : ∀ key, l'.ask key = l.ask key) :
    l'.toolsAfter = l.toolsAfter := by
  have hask : l'.ask = l.ask := funext h
  funext tools asked
  rw [toolsAfter, toolsAfter, hask]

section Alike

variable {s t : σ} (h : l.AlikeUnder name tools s t)

include h

theorem AlikeUnder.other (hne : key ≠ name) (more : List Command) :
    l.AlikeUnder name tools (l.toolsAfter s (more.map (key, ·))) t := by
  obtain ⟨asked, asked', hsame, rfl, rfl⟩ := h
  refine ⟨asked ++ more.map (key, ·), asked', ?_, (toolsAfter_append _ _).symm, rfl⟩
  have hnone : (more.map (key, ·)).filter (·.1 = name) = [] := by simp [hne]
  rw [List.filter_append, hnone, List.append_nil, hsame]

theorem AlikeUnder.own (more : List Command) :
    l.AlikeUnder name tools (l.toolsAfter s (more.map (name, ·)))
      (l.toolsAfter t (more.map (name, ·))) := by
  obtain ⟨asked, asked', hsame, rfl, rfl⟩ := h
  refine ⟨asked ++ more.map (name, ·), asked' ++ more.map (name, ·), ?_,
    (toolsAfter_append _ _).symm, (toolsAfter_append _ _).symm⟩
  rw [List.filter_append, List.filter_append, hsame]

theorem AnswersOwn.repeats (hown : l.AnswersOwn name tools) (c : Command) :
    (l.ask name s c).1.map Reply.untimed = (l.ask name t c).1.map Reply.untimed ∧
      l.AlikeUnder name tools (l.ask name s c).2 (l.ask name t c).2 := by
  refine ⟨?_, h.own [c]⟩
  obtain ⟨asked, asked', hsame, rfl, rfl⟩ := h
  exact hown asked asked' c hsame

end Alike

/-- Where calls of many commands have come to, and where those of one command alone have. -/
structure Accompanies (l : Lifecycle σ) (name : String) (tools : σ)
    (mixed alone : Lifecycle σ × World σ) : Prop where
  asks : ∀ key, mixed.1.ask key = l.ask key
  asks_alone : ∀ key, alone.1.ask key = l.ask key
  entry : ∃ id, SameEntry name id mixed.1 alone.1
  tools : l.AlikeUnder name tools mixed.2.tools alone.2.tools

namespace Accompanies

variable {mixed alone : Lifecycle σ × World σ} (h : l.Accompanies name tools mixed alone)

include h

theorem other (hne : key ≠ name) :
    let e := mixed.1.runCommand key mixed.2
    l.Accompanies name tools (e.subject, e.world) alone where
  asks other := by rw [ask_runCommand, h.asks]
  asks_alone := h.asks_alone
  entry := by
    obtain ⟨id, hentry⟩ := h.entry
    exact ⟨id, (get?_runCommand_of_ne mixed.1 hne.symm mixed.2).trans hentry⟩
  tools := by
    dsimp only
    rw [tools_runCommand, toolsAfter_eq_of_asks h.asks]
    exact h.tools.other hne _

theorem repeats (hown : l.AnswersOwn name tools) :
    Episode.Repeats (SameEntry name) (mixed.1.runCommand name mixed.2)
      (alone.1.runCommand name alone.2) := by
  obtain ⟨id, hentry⟩ := h.entry
  cases halone : alone.1.table.get? name with
  | none =>
    have hmixed : mixed.1.table.get? name = none := by rw [hentry, halone, Option.map_none]
    rw [runCommand_of_none _ hmixed, runCommand_of_none _ halone]
    exact ⟨rfl, id, .nil id, hentry⟩
  | some r =>
    have hmixed : mixed.1.table.get? name = some (r.inRun id) := by
      rw [hentry, halone, Option.map_some]
    have hask : (r.inRun id).command.ask = l.ask name := by
      rw [← ask_of_some hmixed, h.asks]
    have hrepeats : (r.inRun id).command.Repeats (l.AlikeUnder name tools) := by
      intro s t c hst
      rw [hask]
      exact AnswersOwn.repeats hst hown c
    exact repeats_runCommand hmixed halone hrepeats h.tools

theorem own (hown : l.AnswersOwn name tools) :
    let e := mixed.1.runCommand name mixed.2
    let e' := alone.1.runCommand name alone.2
    l.Accompanies name tools (e.subject, e.world) (e'.subject, e'.world) := by
  intro e e'
  obtain ⟨-, id, htrace, hentry⟩ := h.repeats hown
  refine ⟨fun key ↦ ?_, fun key ↦ ?_, ⟨id, hentry⟩, ?_⟩
  · rw [ask_runCommand, h.asks]
  · rw [ask_runCommand, h.asks_alone]
  · dsimp only [e, e']
    rw [tools_runCommand, tools_runCommand, toolsAfter_eq_of_asks h.asks,
      toolsAfter_eq_of_asks h.asks_alone, htrace.asked]
    exact h.tools.own _

end Accompanies

theorem Accompanies.calls {names : List String} {mixed alone : Lifecycle σ × World σ}
    (hown : l.AnswersOwn name tools) (h : l.Accompanies name tools mixed alone) :
    List.Forall₂ (fun e e' ↦ e.1 = name ∧ e'.1 = name ∧ Episode.Repeats (SameEntry name) e.2 e'.2)
        ((mixed.1.session mixed.2 names).filter (·.1 = name))
        (alone.1.session alone.2 (names.filter (· = name))) ∧
      l.Accompanies name tools (mixed.1.leave mixed.2 names)
        (alone.1.leave alone.2 (names.filter (· = name))) := by
  -- a call of another name is a step of the one side only
  induction names generalizing mixed alone with
  | nil => exact ⟨.nil, h⟩
  | cons key rest ih =>
    by_cases hkey : key = name
    · subst hkey
      obtain ⟨hcalls, hlast⟩ := ih (h.own hown)
      rw [List.filter_cons_of_pos (by simp)]
      refine ⟨?_, hlast⟩
      rw [session, session, List.filter_cons_of_pos (by simp)]
      exact .cons ⟨rfl, rfl, h.repeats hown⟩ hcalls
    · obtain ⟨hcalls, hlast⟩ := ih (h.other hkey)
      rw [List.filter_cons_of_neg (by simpa using hkey)]
      refine ⟨?_, hlast⟩
      rw [session, List.filter_cons_of_neg (by simpa using hkey)]
      exact hcalls

theorem Accompanies.refl (l : Lifecycle σ) (name : String) {world world' : World σ}
    (htools : world'.tools = world.tools) :
    l.Accompanies name world.tools (l, world) (l, world') where
  asks _ := rfl
  asks_alone _ := rfl
  entry := by
    cases h : l.table.get? name with
    | none =>
      refine ⟨"", ?_⟩
      rw [SameEntry, h, Option.map_none]
    | some r =>
      obtain ⟨id, hid⟩ := r.command.exists_inRun_eq
      refine ⟨id, ?_⟩
      rw [SameEntry, h, Option.map_some, Registration.inRun, hid]
  tools := ⟨[], [], rfl, rfl, htools⟩

section OwnTools

variable {τ : Type} {l : Lifecycle (String → τ)} {name key : String} {tools tools' : String → τ}

/-- Every hook runs its commands with tools of its own, which are under its name. -/
def OwnTools (l : Lifecycle (String → τ)) : Prop :=
  ∀ name r, l.table.get? name = some r → ∀ hook, r.command = .hook hook →
    ∃ e : Executor τ, hook.executor = e.at name

theorem ownTools_create : (create : Lifecycle (String → τ)).OwnTools := by
  intro name r hr hook hhook
  rw [create, get?_register] at hr
  split at hr
  · cases hr
    nomatch hhook
  · nomatch hr

variable (h : l.OwnTools)

include h

theorem OwnTools.register {c : LifecycleCommand (String → τ)}
    (hc : ∀ hook, c = .hook hook → ∃ e : Executor τ, hook.executor = e.at c.name) :
    (l.register c).1.OwnTools := by
  intro name r hr
  rw [get?_register] at hr
  split at hr
  · next hname =>
    cases hr
    exact hname ▸ hc
  · exact h name r hr

theorem OwnTools.ask_cases (name : String) :
    (∃ e : Executor τ, ∀ tools c,
      l.ask name tools c = (some (e.at name tools c).1, (e.at name tools c).2)) ∨
    ∀ tools c, l.ask name tools c = (none, tools) := by
  cases hr : l.table.get? name with
  | none => exact .inr fun tools c ↦ ask_of_none hr c
  | some r =>
    rw [ask_of_some hr]
    cases hcommand : r.command with
    | hook hook =>
      obtain ⟨e, he⟩ := h name r hr hook hcommand
      refine .inl ⟨e, fun tools c ↦ ?_⟩
      rw [LifecycleCommand.ask, he]
    | _ => exact .inr fun _ _ ↦ rfl

theorem OwnTools.ask_of_ne (hne : key ≠ name) (tools : String → τ) (c : Command) :
    (l.ask key tools c).2 name = tools name := by
  rcases h.ask_cases key with ⟨e, hask⟩ | hask
  · rw [hask]
    exact Function.update_of_ne hne.symm _ _
  · rw [hask]

theorem OwnTools.ask_congr (htools : tools name = tools' name) (c : Command) :
    (l.ask name tools c).1 = (l.ask name tools' c).1 ∧
      (l.ask name tools c).2 name = (l.ask name tools' c).2 name := by
  rcases h.ask_cases name with ⟨e, hask⟩ | hask
  · rw [hask, hask]
    simp only [Executor.at, Function.update_self, htools, and_self]
  · rw [hask, hask]
    exact ⟨rfl, htools⟩

theorem OwnTools.toolsAfter_filter (htools : tools name = tools' name)
    (asked : List (String × Command)) :
    l.toolsAfter tools asked name = l.toolsAfter tools' (asked.filter (·.1 = name)) name := by
  induction asked generalizing tools tools' with
  | nil => exact htools
  | cons request rest ih =>
    by_cases hname : request.1 = name
    · rw [List.filter_cons_of_pos (by simpa using hname)]
      subst hname
      exact ih (h.ask_congr htools request.2).2
    · rw [List.filter_cons_of_neg (by simpa using hname)]
      exact ih ((h.ask_of_ne hname tools request.2).trans htools)

theorem OwnTools.answersOwn (name : String) (tools : String → τ) : l.AnswersOwn name tools := by
  intro asked asked' c hsame
  have htools : l.toolsAfter tools asked name = l.toolsAfter tools asked' name := by
    rw [h.toolsAfter_filter rfl asked, h.toolsAfter_filter rfl asked', hsame]
  rw [(h.ask_congr htools c).1]

end OwnTools

/-- Commands do not come in each other's way. Whatever a call comes to, it changes no names and no
entry but its own. And where an executor is not affected by what the others are asked, the calls of
its command among those of others come to the same, ask for the same, tell the same and leave the
command the same as they do alone. -/
theorem calls_as_if_alone (l : Lifecycle σ) :
    (∀ (a b : String), a ≠ b → ∀ world : World σ,
      let call := l.runCommand a world
      call.subject.commandNames = l.commandNames ∧
        call.subject.table.get? b = l.table.get? b) ∧
    ∀ (name : String) (world world' : World σ), world'.tools = world.tools →
      l.AnswersOwn name world.tools → ∀ names : List String,
        let own := names.filter (· = name)
        List.Forall₂
            (fun e e' ↦ e.1 = name ∧ e'.1 = name ∧ Episode.Repeats (SameEntry name) e.2 e'.2)
            ((l.session world names).filter (·.1 = name)) (l.session world' own) ∧
          ∃ id, SameEntry name id (l.leave world names).1 (l.leave world' own).1 := by
  refine ⟨fun a b hne world ↦ ?_, ?_⟩
  · exact ⟨commandNames_runCommand l a world, get?_runCommand_of_ne l hne.symm world⟩
  · intro name world world' htools hown names own
    obtain ⟨hcalls, hlast⟩ := (Accompanies.refl l name htools).calls hown
    exact ⟨hcalls, hlast.entry⟩

theorem calls_as_if_alone_of_interrupted :
    let scripted (name : String) : Hook (String → List Reply) :=
      ⟨⟨[⟨"make", name⟩], none⟩, (Hook.ofTargets [] .idle).executor.at name,
        ⟨name, "run-0", true⟩, .idle⟩
    let scripts (name : String) : List Reply :=
      if name = "docs" then [⟨[], .never, .zero⟩] else [⟨[], .ended .signaled, .zero⟩]
    let l := ((create.register (.hook (scripted "docs"))).1.register
      (.hook (scripted "build_ext"))).1
    let world : World (String → List Reply) := ⟨scripts, (World.ofScript []).fresh⟩
    let names := ["docs", "build_ext", "docs", "build_ext"]
    let call := l.runCommand "docs" world
    l.AnswersOwn "build_ext" world.tools ∧
      (l.session world names).map (fun call ↦ (call.1, call.2.trace.asked)) =
        [("docs", [⟨"make", ["docs"], none⟩]), ("build_ext", [⟨"make", ["build_ext"], none⟩]),
          ("docs", []), ("build_ext", [⟨"make", ["build_ext"], none⟩])] ∧
      List.Forall₂ (fun e e' ↦ e.1 = "build_ext" ∧ e'.1 = "build_ext" ∧
          Episode.Repeats (SameEntry "build_ext") e.2 e'.2)
        ((l.session world names).filter (·.1 = "build_ext"))
        (l.session world ["build_ext", "build_ext"]) ∧
      call.subject.commandNames = ["build_ext", "docs"] ∧
      call.subject.table.get? "build_ext" = some ⟨2, .hook (scripted "build_ext")⟩ := by
  intro scripted scripts l world names call
  have hscripted (name : String) : ∃ e, (scripted name).executor = Executor.at name e := ⟨_, rfl⟩
  have hown : l.OwnTools :=
    (ownTools_create.register fun _ h ↦ by cases h; exact hscripted "docs").register
      fun _ h ↦ by cases h; exact hscripted "build_ext"
  have hanswers := hown.answersOwn "build_ext" world.tools
  obtain ⟨hframe, hcalls⟩ := calls_as_if_alone l
  obtain ⟨hnames, hentry⟩ := hframe "docs" "build_ext" (by decide) world
  have hregistered : l.table.get? "build_ext" = some ⟨2, .hook (scripted "build_ext")⟩ := by
    rw [get?_register]
    exact if_pos rfl
  exact ⟨hanswers, by decide +kernel, (hcalls _ world world rfl hanswers names).1,
    hnames.trans (by decide +kernel), hentry.trans hregistered⟩

end Lifecycle

end BuildHook
