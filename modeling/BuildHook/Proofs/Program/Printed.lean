import BuildHook.Proofs.Console.Table
import BuildHook.Proofs.Json.Records
import BuildHook.Proofs.Program.Ended
import BuildHook.Proofs.Program.Processes

namespace BuildHook

open Json

namespace Outcome

/-- A result as JSON holds what the program came to. -/
def HeldBy (result : Json) : Outcome → Prop
  | phase r => ∃ phase reports, result = .obj [("phase", phase), ("reports", .arr reports)] ∧
      Phase.ofJson? phase = some r.phase ∧
      List.Forall₂ (Reads HookReport.ofJson?) reports r.reports
  | plan p => Reads Plan.ofJson? result p
  | check c => ∃ path, result = .obj [("tool", .str c.tool), ("path", path)] ∧
      Reads (nullable OsText.ofJson?) path c.path
  | info p => Reads Package.ofJson? result p

/-- The text is JSON that holds a result under its kind. -/
def ReadFrom (text : String) (o : Outcome) : Prop :=
  let kind := match o with
    | phase _ => "phase"
    | plan _ => "plan"
    | check _ => "check"
    | info _ => "info"
  ∃ result, ofText? text = some (.obj [("kind", .str kind), ("result", result)]) ∧ o.HeldBy result

theorem heldBy_of_resultJson? {o : Outcome} {result : Json} (h : o.resultJson? = some result) :
    o.HeldBy result := by
  cases o with
  | phase r =>
    obtain rfl : r.toJson = result := Option.some.inj h
    refine ⟨_, r.reports.map HookReport.toJson, rfl, by cases r.phase <;> rfl, ?_⟩
    rw [List.forall₂_map_left_iff, List.forall₂_same]
    exact fun report _ ↦ report.reads_toJson
  | plan p => exact p.survives.reads result h
  | check c =>
    obtain ⟨path, hpath, h⟩ := Option.bind_eq_some_iff.1 h
    exact ⟨path, (Option.some.inj h).symm, OsText.reads_option hpath⟩
  | info p =>
    obtain rfl : p.toJson = result := Option.some.inj h
    exact p.reads_toJson

theorem whole_of_resultJson? {o : Outcome} {result : Json} (h : o.resultJson? = some result) :
    result.Whole := by
  cases o with
  | phase r =>
    obtain rfl : r.toJson = result := Option.some.inj h
    exact .obj (by simp [Phase.toJson, Whole.str, Whole.list HookReport.whole_toJson])
  | plan p => exact Plan.whole_of_toJson? h
  | check c =>
    obtain ⟨path, hpath, h⟩ := Option.bind_eq_some_iff.1 h
    obtain rfl := Option.some.inj h
    exact .obj (by simp [Whole.str, OsText.whole_option hpath])
  | info p =>
    obtain rfl : p.toJson = result := Option.some.inj h
    exact p.whole_toJson

theorem readFrom_of_toJson? {o : Outcome} {v : Json} (h : o.toJson? = some v) {blanks : String}
    (hblanks : blanks.toList.all isBlank = true) : o.ReadFrom (pretty 0 v ++ blanks) := by
  obtain ⟨result, hresult, h⟩ := Option.bind_eq_some_iff.1 h
  obtain rfl := Option.some.inj h
  have hwhole : Whole (.obj [("kind", .str o.kind), ("result", result)]) :=
    .obj (by simp [Whole.str, whole_of_resultJson? hresult])
  refine ⟨result, ?_, heldBy_of_resultJson? hresult⟩
  rw [ofText?_pretty hwhole hblanks]
  cases o <;> rfl

/-- The text shows a result to people. -/
def ShownAs (text : String) : Outcome → Prop
  | phase r =>
    let name := match r.phase with
      | .buildExt => "build_ext"
      | .build => "build"
      | .install => "install"
    let records := r.reports.flatMap HookReport.records
    if records = [] then text = "[OK] " ++ name ++ ": nothing to build"
    else ∃ table, text = table ++ "\n[OK] " ++ name ++ " completed" ∧
      Table.Draws ["Step", "Command", "Status", "Duration"]
        (records.zipIdx.map fun (record, i) ↦
          [toString (i + 1), record.step.tool ++ " " ++ record.step.target,
            match record.status.exitCode with
              | some code => "exit status " ++ toString code
              | none => "terminated by signal",
            toString (record.duration.nanos / 1000000) ++ "ms"]) table
  | plan p => Table.Draws ["Step", "Tool", "Target"]
      (p.steps.zipIdx.map fun (step, i) ↦ [toString (i + 1), step.tool, step.target]) text
  | check c => text = match c.path with
      | some path => "[OK] " ++ c.tool ++ " found at " ++ path.display
      | none => "[ERROR] " ++ c.tool ++ " not found on PATH"
  | info p => Table.Draws ["Field", "Value"]
      [["Name", p.name], ["Version", p.version], ["Description", p.description],
        ["URL", p.url.getD "-"], ["Author", p.author.getD "-"], ["License", p.license],
        ["Packages", ", ".intercalate p.packages]] text

theorem numbered_map {α : Type} (f : α → List String) (l : List α) :
    numbered (l.map f) = l.zipIdx.map fun (a, i) ↦ toString (i + 1) :: f a := by
  simp [numbered, List.zipIdx_map, Function.comp_def]

theorem length_of_mem_numbered {rows : List (List String)} {n : Nat}
    (h : ∀ row ∈ rows, row.length = n) : ∀ row ∈ numbered rows, row.length = n + 1 := by
  intro row hrow
  obtain ⟨⟨cells, i⟩, hcells, rfl⟩ := List.mem_map.1 hrow
  rw [List.length_cons, h cells (List.fst_mem_of_mem_zipIdx hcells)]

theorem draws_phaseTable (r : PhaseReport) :
    Table.Draws ["Step", "Command", "Status", "Duration"]
      ((r.reports.flatMap HookReport.records).zipIdx.map fun (record, i) ↦
        [toString (i + 1), record.step.text, record.status.text,
          toString record.duration.millis ++ "ms"]) (phaseTable r).text := by
  rw [← numbered_map fun record : StepRecord ↦
    [record.step.text, record.status.text, toString record.duration.millis ++ "ms"]]
  have hrows : ∀ row ∈ (phaseTable r).rows, row.length = (phaseTable r).header.length := by
    refine length_of_mem_numbered fun row hrow ↦ ?_
    obtain ⟨record, -, rfl⟩ := List.mem_map.1 hrow
    rfl
  exact Table.draws_text (List.cons_ne_nil _ _) hrows

theorem draws_planTable (p : Plan) :
    Table.Draws ["Step", "Tool", "Target"]
      (p.steps.zipIdx.map fun (step, i) ↦ [toString (i + 1), step.tool, step.target])
      (planTable p).text := by
  rw [← numbered_map fun step : Step ↦ [step.tool, step.target]]
  have hrows : ∀ row ∈ (planTable p).rows, row.length = (planTable p).header.length := by
    refine length_of_mem_numbered fun row hrow ↦ ?_
    obtain ⟨step, -, rfl⟩ := List.mem_map.1 hrow
    rfl
  exact Table.draws_text (List.cons_ne_nil _ _) hrows

theorem shownAs_text (o : Outcome) : o.ShownAs o.text := by
  cases o with
  | phase r =>
    have hname : r.phase.name = match r.phase with
        | .buildExt => "build_ext"
        | .build => "build"
        | .install => "install" := by
      cases r.phase <;> rfl
    rw [text, phaseText, PhaseReport.stepsRun, ShownAs, ← hname]
    dsimp only
    by_cases hrecords : r.reports.flatMap HookReport.records = []
    · rw [if_pos hrecords, if_pos (List.length_eq_zero_iff.2 hrecords)]
    · rw [if_neg hrecords, if_neg fun h ↦ hrecords (List.length_eq_zero_iff.1 h)]
      exact ⟨_, rfl, draws_phaseTable r⟩
  | plan p => exact draws_planTable p
  | check c =>
    obtain ⟨tool, path⟩ := c
    cases path with
    | none => rfl
    | some path => rfl
  | info p =>
    have hrows : ∀ row ∈ (infoTable p).rows, row.length = (infoTable p).header.length := by
      simp [infoTable]
    exact Table.draws_text (List.cons_ne_nil _ _) hrows

def WrittenAs (json : Bool) (out : String) (o : Outcome) : Prop :=
  ∃ text, out = text ++ "\n" ∧ if json then o.ReadFrom text else o.ShownAs text

theorem WrittenAs.ne_empty {json : Bool} {out : String} {o : Outcome} (h : o.WrittenAs json out) :
    out ≠ "" := by
  obtain ⟨text, rfl, -⟩ := h
  rw [ne_eq, String.append_eq_empty_iff]
  exact fun h ↦ absurd h.2 (by decide)

theorem exists_toJson?_of_render {o : Outcome} {out : String} (h : o.render true = .ok out) :
    ∃ v, o.toJson? = some v ∧ out = pretty 0 v ++ "\n" := by
  rw [render, if_pos rfl] at h
  cases hv : o.toJson? with
  | none =>
    rw [hv] at h
    cases h
  | some v =>
    rw [hv] at h
    exact ⟨v, rfl, (Except.ok.inj h).symm⟩

theorem writtenAs_of_render {json : Bool} {o : Outcome} {out : String}
    (h : o.render json = .ok out) : o.WrittenAs json out := by
  cases json with
  | true =>
    obtain ⟨v, hv, rfl⟩ := exists_toJson?_of_render h
    refine ⟨pretty 0 v, rfl, ?_⟩
    rw [if_pos rfl, ← String.append_empty (s := pretty 0 v)]
    exact readFrom_of_toJson? hv rfl
  | false => exact ⟨o.text, (Except.ok.inj h).symm, o.shownAs_text⟩

theorem readFrom_of_render {o : Outcome} {out : String} (h : o.render true = .ok out) :
    o.ReadFrom out := by
  obtain ⟨v, hv, rfl⟩ := exists_toJson?_of_render h
  exact readFrom_of_toJson? hv rfl

end Outcome

namespace Surroundings

variable {σ : Type} {s : Surroundings σ} {args : List OsText} {r : Request} {c : Config}

theorem exists_render_of_exitStatus (hargs : CommandLine.parse args = .ok r)
    (hc : s.Configured r.options c) {world : World σ}
    (h : (s.run args world).exitStatus = some 0) :
    ∃ o text, s.Attains r c world o ∧ o.render r.options.json = .ok text ∧
      (s.run args world).stdout = text := by
  rw [s.run_eq_perform world hargs] at h ⊢
  obtain ⟨text, hprinted, d, o, hd, ho, hrender⟩ :=
    (s.concludes_perform r world).exists_result (.inl h)
  obtain rfl := configured_unique hc hd
  refine ⟨o, text, ho, hrender, ?_⟩
  dsimp only
  rw [hprinted]
  rfl

/-- Plans, settings, states and reports as JSON: only a directory that is no text is in the way of
writing them, and they are read back as they were. So are the results that the program prints. -/
theorem json_survives :
    (∀ p : Plan, Survives Plan.toJson? Plan.ofJson? p.workingDir p) ∧
      (∀ c : Config, Survives Config.toJson? Config.ofJson? c.hook.workingDir c) ∧
      (∀ c : HookConfig, Survives HookConfig.toJson? HookConfig.ofJson? c.workingDir c) ∧
      (∀ p : Package, Survives (fun p ↦ some p.toJson) Package.ofJson? none p) ∧
      (∀ s : HookState, s.Counted → Survives (fun s ↦ some s.toJson) HookState.ofJson? none s) ∧
      (∀ r : HookReport, Survives (fun r ↦ some r.toJson) HookReport.ofJson? none r) ∧
      ∀ {σ : Type} (s : Surroundings σ) {args : List OsText} {r : Request} (world : World σ),
        CommandLine.parse args = .ok r → r.options.json = true →
          (s.run args world).exitStatus = some 0 →
            ∃ c o, s.Configured r.options c ∧ s.Attains r c world o ∧
              o.ReadFrom (s.run args world).stdout := by
  refine ⟨Plan.survives, Config.survives, HookConfig.survives,
    fun p ↦ p.reads_toJson.survives p.whole_toJson,
    fun s hs ↦ (s.reads_toJson hs).survives s.whole_toJson,
    fun r ↦ r.reads_toJson.survives r.whole_toJson, ?_⟩
  intro σ s args r world hargs hjson hstatus
  by_cases hconfigured : ∃ c, s.Configured r.options c
  · obtain ⟨c, hc⟩ := hconfigured
    obtain ⟨o, text, hattains, hrender, rfl⟩ := exists_render_of_exitStatus hargs hc hstatus
    rw [hjson] at hrender
    exact ⟨c, o, hc, hattains, Outcome.readFrom_of_render hrender⟩
  · rw [(run_of_not_configured world hargs (not_exists.1 hconfigured)).1] at hstatus
    cases hstatus

theorem json_survives_of_install :
    let s := failingOn ""
    let world : World (Processes Unit) := ⟨⟨(), [], ""⟩, fun _ ↦ ""⟩
    let args := [OsText.ofString "install", OsText.ofString "--json"]
    HookState.ofJson? (HookState.running 1).toJson = some (.running 1) ∧
      CommandLine.parse args = .ok ⟨.install, ⟨true, false, none⟩⟩ ∧
      (s.run args world).exitStatus = some 0 ∧
      ∃ phase v report, ofText? (s.run args world).stdout = some (.obj [("kind", .str "phase"),
          ("result", .obj [("phase", phase), ("reports", .arr [v])])]) ∧
        Phase.ofJson? phase = some .install ∧ Reads HookReport.ofJson? v report := by
  intro s world args
  have hargs : CommandLine.parse args = .ok ⟨.install, ⟨true, false, none⟩⟩ := rfl
  have hcounted : (HookState.running 1).Counted := show 1 < 0x10000000000000000 by decide
  have hstatus : (s.run args world).exitStatus = some 0 := by
    rw [(run_of_phase world hargs (configured_failingOn "" rfl) rfl).1]
    decide +kernel
  obtain ⟨-, -, -, -, hstates, -, hprinted⟩ := json_survives
  have hstate := ((hstates _ hcounted).reads _ rfl).read
  obtain ⟨c, o, -, ⟨report, -, rfl⟩, result, htext, phase, reports, rfl, hphase, hreads⟩ :=
    hprinted s world hargs rfl hstatus
  obtain ⟨v, _, hread, hnil, rfl⟩ := List.forall₂_cons_right_iff.1 hreads
  obtain rfl := List.forall₂_nil_right_iff.1 hnil
  exact ⟨hstate, hargs, hstatus, phase, v, report, htext, hphase, hread⟩

end Surroundings

end BuildHook
