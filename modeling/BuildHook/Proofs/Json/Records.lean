import BuildHook.Hook.Report
import BuildHook.Hook.State
import BuildHook.Proofs.Json.Reading
import BuildHook.Proofs.Json.Text

namespace BuildHook

namespace Json

variable {α : Type}

/-- A value that may hold a path is written unless the path is no text, and is read back, from its
text as well. -/
structure Survives (write : α → Option Json) (read : Json → Option α) (path : Option OsText)
    (a : α) : Prop where
  unwritten_iff : write a = none ↔ ∃ p ∈ path, p.toString? = none
  reads : ∀ v, write a = some v → Reads read v a
  legible : ∀ v, write a = some v → ofText? (pretty 0 v) = some v

theorem Reads.survives {write : α → Json} {read : Json → Option α} {a : α}
    (h : Reads read (write a) a) (hwhole : (write a).Whole) :
    Survives (fun a ↦ some (write a)) read none a where
  unwritten_iff := by simp
  reads v hv := by
    obtain rfl : write a = v := Option.some.inj hv
    exact h
  legible v hv := by
    obtain rfl : write a = v := Option.some.inj hv
    exact hwhole.legible

theorem Whole.list {write : α → Json} (h : ∀ a, (write a).Whole) (l : List α) :
    (Json.list write l).Whole :=
  .arr (List.forall_mem_map.2 fun a _ ↦ h a)

theorem Whole.option {write : α → Json} (h : ∀ a, (write a).Whole) (o : Option α) :
    (Json.option write o).Whole := by
  cases o with
  | none => exact .null
  | some a => exact h a

end Json

open Json

namespace OsText

theorem option?_toJson?_eq_none_iff {path : Option OsText} :
    option? toJson? path = none ↔ ∃ p ∈ path, p.toString? = none := by
  cases path with
  | none => simp [option?]
  | some p => simp [option?, toJson?]

theorem reads_option {path : Option OsText} {v : Json} (h : option? toJson? path = some v) :
    Reads (nullable ofJson?) v path := by
  cases path with
  | none =>
    obtain rfl : null = v := Option.some.inj h
    intro w hw
    cases hw
    rfl
  | some p =>
    obtain ⟨s, hs, rfl⟩ := Option.map_eq_some_iff.1 h
    intro w hw
    cases hw
    exact congrArg (some ∘ some) (ofString_of_toString? hs)

theorem whole_option {path : Option OsText} {v : Json} (h : option? toJson? path = some v) :
    v.Whole := by
  cases path with
  | none =>
    obtain rfl : null = v := Option.some.inj h
    exact .null
  | some p =>
    obtain ⟨s, -, rfl⟩ := Option.map_eq_some_iff.1 h
    exact .str s

end OsText

namespace Step

theorem whole_toJson (s : Step) : s.toJson.Whole := .obj (by simp [Whole.str])

theorem reads_toJson (s : Step) : Reads ofJson? s.toJson s := by
  refine reads_record (by simp) fun fields hfields ↦ ?_
  have htool := hfields.required 0 "tool" rfl (reads_str s.tool)
  have htarget := hfields.required 1 "target" rfl (reads_str s.target)
  simp [htool, htarget]

end Step

namespace Plan

theorem whole_of_toJson? {p : Plan} {v : Json} (h : p.toJson? = some v) : v.Whole := by
  obtain ⟨dir, hdir, h⟩ := Option.bind_eq_some_iff.1 h
  obtain rfl := Option.some.inj h
  exact .obj (by simp [Whole.list Step.whole_toJson, OsText.whole_option hdir])

theorem survives (p : Plan) : Survives toJson? ofJson? p.workingDir p where
  unwritten_iff := by
    rw [← OsText.option?_toJson?_eq_none_iff, toJson?]
    cases option? OsText.toJson? p.workingDir <;> simp
  reads v hv := by
    obtain ⟨dir, hdir, hv⟩ := Option.bind_eq_some_iff.1 hv
    obtain rfl := Option.some.inj hv
    refine reads_record (by simp) fun fields hfields ↦ ?_
    have hsteps := hfields.required 0 "steps" rfl (reads_listOf Step.reads_toJson p.steps)
    have hdir := hfields.optional 1 "working_dir" rfl (OsText.reads_option hdir)
    simp [hsteps, hdir]
  legible _ hv := (whole_of_toJson? hv).legible

end Plan

namespace HookConfig

theorem whole_of_toJson? {c : HookConfig} {v : Json} (h : c.toJson? = some v) : v.Whole := by
  obtain ⟨dir, hdir, h⟩ := Option.bind_eq_some_iff.1 h
  obtain rfl := Option.some.inj h
  exact .obj (by simp [Whole.str, strings, Whole.list Whole.str, OsText.whole_option hdir])

theorem survives (c : HookConfig) : Survives toJson? ofJson? c.workingDir c where
  unwritten_iff := by
    rw [← OsText.option?_toJson?_eq_none_iff, toJson?]
    cases option? OsText.toJson? c.workingDir <;> simp
  reads v hv := by
    obtain ⟨dir, hdir, hv⟩ := Option.bind_eq_some_iff.1 hv
    obtain rfl := Option.some.inj hv
    refine reads_record (by simp) fun fields hfields ↦ ?_
    have htool := hfields.withDefault 0 "tool" default.tool rfl
      (reads_str c.tool)
    have htargets := hfields.withDefault 1 "targets" default.targets rfl
      (reads_strings c.targets)
    have hdir := hfields.withDefault 2 "working_dir" none rfl
      (OsText.reads_option hdir)
    simp [htool, htargets, hdir]
  legible _ hv := (whole_of_toJson? hv).legible

end HookConfig

namespace Package

theorem whole_toJson (p : Package) : p.toJson.Whole :=
  .obj (by simp [Whole.str, Whole.option Whole.str, Whole.list Whole.str, strings])

theorem reads_toJson (p : Package) : Reads ofJson? p.toJson p := by
  refine reads_record (by simp) fun fields hfields ↦ ?_
  have hname := hfields.withDefault 0 "name" default.name rfl
    (reads_str p.name)
  have hversion := hfields.withDefault 1 "version" default.version rfl
    (reads_str p.version)
  have hdescription := hfields.withDefault 2 "description"
    default.description rfl (reads_str p.description)
  have hurl := hfields.withDefault 3 "url" none rfl
    (reads_nullable rfl reads_str p.url)
  have hauthor := hfields.withDefault 4 "author" none rfl
    (reads_nullable rfl reads_str p.author)
  have hlicense := hfields.withDefault 5 "license" default.license rfl
    (reads_str p.license)
  have hpackages := hfields.withDefault 6 "packages" default.packages rfl
    (reads_strings p.packages)
  simp [hname, hversion, hdescription, hurl, hauthor, hlicense, hpackages]

end Package

namespace Config

theorem survives (c : Config) : Survives toJson? ofJson? c.hook.workingDir c where
  unwritten_iff := by
    rw [← c.hook.survives.unwritten_iff, toJson?]
    cases c.hook.toJson? <;> simp
  reads v hv := by
    obtain ⟨hook, hhook, hv⟩ := Option.bind_eq_some_iff.1 hv
    obtain rfl := Option.some.inj hv
    refine reads_record (by simp) fun fields hfields ↦ ?_
    have hhook := hfields.withDefault 0 "hook" HookConfig.default rfl
      (c.hook.survives.reads hook hhook)
    have hpackage := hfields.withDefault 1 "package" Package.default rfl
      c.package.reads_toJson
    simp [hhook, hpackage]
  legible v hv := by
    obtain ⟨hook, hhook, hv⟩ := Option.bind_eq_some_iff.1 hv
    obtain rfl := Option.some.inj hv
    have hwhole : Whole (.obj [("hook", hook), ("package", c.package.toJson)]) :=
      .obj (by simp [HookConfig.whole_of_toJson? hhook, c.package.whole_toJson])
    exact hwhole.legible

end Config

namespace HookState

def Counted : HookState → Prop
  | idle => True
  | running step => IsCount step
  | failed step => IsCount step
  | succeeded => True

theorem whole_toJson (s : HookState) : s.toJson.Whole := by
  cases s <;> exact .obj (by simp [nat, Whole.str, Whole.int])

theorem reads_toJson {s : HookState} (hs : s.Counted) : Reads ofJson? s.toJson s := by
  intro w hw
  cases s with
  | idle =>
    obtain ⟨fields, htagged, hfields⟩ := tagged?_of_reordered (by simp) hw
    simp [ofJson?, htagged, hfields.fit]
  | running step =>
    obtain ⟨fields, htagged, hfields⟩ := tagged?_of_reordered (by simp) hw
    have hstep := hfields.required 0 "step" rfl (reads_count hs)
    simp [ofJson?, htagged, hfields.fit, hstep]
  | failed step =>
    obtain ⟨fields, htagged, hfields⟩ := tagged?_of_reordered (by simp) hw
    have hstep := hfields.required 0 "step" rfl (reads_count hs)
    simp [ofJson?, htagged, hfields.fit, hstep]
  | succeeded =>
    obtain ⟨fields, htagged, hfields⟩ := tagged?_of_reordered (by simp) hw
    simp [ofJson?, htagged, hfields.fit]

end HookState

theorem Duration.whole_toJson (d : Duration) : d.toJson.Whole := .obj (by simp [nat, Whole.int])

namespace ExitStatus

theorem whole_toJson (s : ExitStatus) : s.toJson.Whole :=
  .obj (by simp [Whole.option fun code : Int32 ↦ Whole.int code.toInt])

theorem reads_toJson (s : ExitStatus) : Reads ofJson? s.toJson s := by
  refine reads_record (by simp) fun fields hfields ↦ ?_
  have hcode := hfields.optional 0 "exit_code" rfl
    (reads_nullable rfl reads_exitCode s.exitCode)
  simp [hcode]

end ExitStatus

namespace StepRecord

theorem whole_toJson (r : StepRecord) : r.toJson.Whole :=
  .obj (by simp [r.step.whole_toJson, r.status.whole_toJson, r.duration.whole_toJson])

theorem reads_toJson (r : StepRecord) : Reads ofJson? r.toJson r := by
  refine reads_record (by simp) fun fields hfields ↦ ?_
  have hstep := hfields.required 0 "step" rfl r.step.reads_toJson
  have hstatus := hfields.required 1 "status" rfl r.status.reads_toJson
  have hduration := hfields.required 2 "duration" rfl r.duration.reads_toJson
  simp [hstep, hstatus, hduration]

end StepRecord

namespace HookReport

theorem whole_toJson (r : HookReport) : r.toJson.Whole :=
  .obj (by simp [Whole.str, Whole.list StepRecord.whole_toJson, r.duration.whole_toJson])

theorem reads_toJson (r : HookReport) : Reads ofJson? r.toJson r := by
  refine reads_record (by simp) fun fields hfields ↦ ?_
  have hcommand := hfields.required 0 "command" rfl (reads_str r.command)
  have hrecords := hfields.required 1 "records" rfl
    (reads_listOf StepRecord.reads_toJson r.records)
  have hduration := hfields.required 2 "duration" rfl r.duration.reads_toJson
  simp [hcommand, hrecords, hduration]

end HookReport

end BuildHook
