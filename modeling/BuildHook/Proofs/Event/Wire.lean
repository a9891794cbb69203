import BuildHook.Event.Json
import BuildHook.Proofs.Json.Reading

namespace BuildHook

namespace NameMap

variable {α : Type}

theorem perm_place {name : String} {value : α} {l : List (String × α)}
    (h : name ∉ l.map Prod.fst) : (place name value l).Perm ((name, value) :: l) := by
  induction l with
  | nil => exact .refl _
  | cons e rest ih =>
    obtain ⟨key, old⟩ := e
    rw [List.map_cons, List.mem_cons, not_or] at h
    unfold place
    split
    · exact .refl _
    · rw [if_neg h.1]
      exact ((ih h.2).cons _).trans (.swap _ _ _)

theorem perm_foldl_insert (m : NameMap α) (l : List (String × α))
    (hnames : ((m.entries ++ l).map Prod.fst).Nodup) :
    (l.foldl (fun m e ↦ m.insert e.1 e.2) m).entries.Perm (m.entries ++ l) := by
  induction l generalizing m with
  | nil => simp
  | cons e rest ih =>
    have hnew : e.1 ∉ m.entries.map Prod.fst := by
      intro hmem
      rw [List.map_append, List.nodup_append] at hnames
      exact hnames.2.2 e.1 hmem e.1 (by simp) rfl
    have hperm : ((m.insert e.1 e.2).entries ++ rest).Perm (m.entries ++ e :: rest) :=
      ((perm_place hnew).append_right rest).trans List.perm_middle.symm
    exact (ih _ ((hperm.map _).nodup_iff.2 hnames)).trans hperm

theorem ofList_of_perm {m : NameMap α} {l : List (String × α)} (h : m.entries.Perm l) :
    ofList l = m := by
  have hsorted (m : NameMap α) : m.entries.Pairwise fun a b ↦ a.1 < b.1 :=
    List.pairwise_map.1 m.sorted
  have hnames : (l.map Prod.fst).Nodup :=
    (h.map _).nodup_iff.1 (m.sorted.imp fun hlt ↦ (String.ne_of_lt hlt))
  have hperm : (ofList l).entries.Perm m.entries :=
    (perm_foldl_insert empty l hnames).trans h.symm
  have hentries : (ofList l).entries = m.entries :=
    hperm.eq_of_pairwise (fun a b _ _ hab hba ↦ absurd hba (String.lt_asymm hab)) (hsorted _)
      (hsorted _)
  cases hl : ofList l
  cases m
  simp_all

end NameMap

namespace Failure

open Json

theorem reads_toJson (f : Failure) : Reads ofJson? f.toJson f := by
  obtain ⟨code, message, hint, retryable⟩ := f
  refine reads_record ?_ fun fields hfields ↦ ?_
  · cases code <;> cases hint <;> simp
  · have hcode := hfields.optional_leftOut 0 "code" (a := code)
      (by cases code <;> cases hint <;> rfl) rfl reads_str
    have hmessage := hfields.required 1 "message"
      (by cases code <;> cases hint <;> rfl) (reads_str message)
    have hhint := hfields.optional_leftOut 2 "hint" (a := hint)
      (by cases code <;> cases hint <;> rfl) rfl reads_str
    have hretryable := hfields.required 3 "retryable"
      (by cases code <;> cases hint <;> rfl) (reads_bool retryable)
    simp [hcode, hmessage, hhint, hretryable]

end Failure

namespace BuildEvent

open Json

def counts : BuildEvent → List Nat
  | hookStarted _ totalSteps => [totalSteps]
  | stepStarted index _ => [index]
  | stepCompleted index _ _ _ => [index]
  | stepFailed index _ _ skipped _ => [index, skipped]
  | hookCompleted _ stepsRun _ => [stepsRun]
  | hookFailed _ _ => []
  | phaseCompleted _ _ => []

theorem ofFields?_of_hold {e : BuildEvent} (he : ∀ n ∈ e.counts, IsCount n) {fields : Fields}
    (hfields : fields.Hold e.members) : ofFields? e.tag fields = some e := by
  cases e with
  | hookStarted hook totalSteps =>
    have hhook := hfields.required 0 "hook" rfl (reads_str hook)
    have htotal := hfields.required 1 "total_steps" rfl
      (reads_count (he totalSteps (by simp [counts])))
    simp [ofFields?, tag, hfields.fit, hhook, htotal]
  | stepStarted index command =>
    have hindex := hfields.required 0 "index" rfl
      (reads_count (he index (by simp [counts])))
    have hcommand := hfields.required 1 "command" rfl (reads_str command)
    simp [ofFields?, tag, hfields.fit, hindex, hcommand]
  | stepCompleted index command exitCode duration =>
    have hindex := hfields.required 0 "index" rfl
      (reads_count (he index (by simp [counts])))
    have hcommand := hfields.required 1 "command" rfl (reads_str command)
    have hexit := hfields.required 2 "exit_code" rfl (reads_exitCode exitCode)
    have hduration := hfields.required 3 "duration" rfl duration.reads_toJson
    simp [ofFields?, tag, hfields.fit, hindex, hcommand, hexit, hduration]
  | stepFailed index command exitCode skipped failure =>
    have hindex := hfields.required 0 "index" rfl
      (reads_count (he index (by simp [counts])))
    have hcommand := hfields.required 1 "command" rfl (reads_str command)
    have hexit := hfields.optional 2 "exit_code" rfl
      (reads_nullable rfl reads_exitCode exitCode)
    have hskipped := hfields.required 3 "skipped" rfl
      (reads_count (he skipped (by simp [counts])))
    have hfailure := hfields.required 4 "failure" rfl failure.reads_toJson
    simp [ofFields?, tag, hfields.fit, hindex, hcommand, hexit, hskipped, hfailure]
  | hookCompleted hook stepsRun duration =>
    have hhook := hfields.required 0 "hook" rfl (reads_str hook)
    have hsteps := hfields.required 1 "steps_run" rfl
      (reads_count (he stepsRun (by simp [counts])))
    have hduration := hfields.required 2 "duration" rfl duration.reads_toJson
    simp [ofFields?, tag, hfields.fit, hhook, hsteps, hduration]
  | hookFailed hook failure =>
    have hhook := hfields.required 0 "hook" rfl (reads_str hook)
    have hfailure := hfields.required 1 "failure" rfl failure.reads_toJson
    simp [ofFields?, tag, hfields.fit, hhook, hfailure]
  | phaseCompleted phase commands =>
    have hphase := hfields.required 0 "phase" rfl (reads_str phase)
    have hcommands := hfields.required 1 "commands" rfl (reads_strings commands)
    simp [ofFields?, tag, hfields.fit, hphase, hcommands]

theorem nodup_members (e : BuildEvent) : ("type" :: e.members.map Prod.fst).Nodup := by
  cases e <;> simp [members]

theorem reads_toJson {e : BuildEvent} (he : ∀ n ∈ e.counts, IsCount n) :
    Reads ofJson? e.toJson e := by
  intro w hw
  obtain ⟨fields, htagged, hfields⟩ := tagged?_of_reordered e.nodup_members hw
  rw [ofJson?, htagged]
  exact ofFields?_of_hold he hfields

end BuildEvent

namespace Diagnostic

open Json

/-- Details hold texts only, so that nothing but their order can have changed. -/
theorem exists_entries_of_reordered {m : NameMap String} {w : Json}
    (h : Reordered (contextToJson m) w) :
    ∃ l : List (String × String), m.entries.Perm l ∧
      w = .obj (l.map fun e ↦ (e.1, .str e.2)) := by
  cases h with
  | refl => exact ⟨m.entries, .refl _, rfl⟩
  | @obj _ between members' hfst hsnd hperm =>
    have hvalues : List.Forall₂ (· = ·)
        ((m.entries.map fun e ↦ (e.1, Json.str e.2)).map Prod.snd) (between.map Prod.snd) := by
      rw [List.map_map, List.forall₂_map_left_iff] at hsnd ⊢
      refine hsnd.imp fun e w hw ↦ ?_
      cases hw
      rfl
    rw [List.forall₂_eq_eq_eq] at hvalues
    have hbetween : between = m.entries.map fun e ↦ (e.1, .str e.2) :=
      (List.zip_of_prod hfst.symm hvalues.symm).trans (List.zip_of_prod rfl rfl).symm
    obtain ⟨l, hl, hentries⟩ :=
      (congrFun₂ (List.eq_map_comp_perm fun e ↦ (e.1, Json.str e.2)) members' m.entries).mpr
        (hbetween ▸ hperm.symm)
    exact ⟨l, hentries.symm, congrArg Json.obj hl⟩

theorem reads_context (m : NameMap String) : Reads contextOfJson? (contextToJson m) m := by
  intro w hw
  obtain ⟨l, hperm, rfl⟩ := exists_entries_of_reordered hw
  have hentries : (l.map fun e ↦ (e.1, Json.str e.2)).mapM
      (fun m ↦ m.2.str?.map fun s ↦ (m.1, s)) = some l := by
    rw [List.mapM_map]
    have hmap : l.mapM (fun e ↦ some (id e)) = some (l.map id) := List.mapM_pure
    exact hmap.trans (congrArg some l.map_id)
  simp [contextOfJson?, hentries, NameMap.ofList_of_perm hperm]

theorem reads_toJson (d : Diagnostic) : Reads ofJson? d.toJson d := by
  intro w hw
  obtain ⟨fields, htagged, hfields⟩ := tagged?_of_reordered (by simp) hw
  have hmessage := hfields.required 0 "message" rfl (reads_str d.message)
  have hcontext := hfields.required 1 "context" rfl (reads_context d.context)
  simp [ofJson?, htagged, hfields.fit, hmessage, hcontext]

end Diagnostic

namespace Event

open Json

def Counted : Event → Prop
  | general _ => True
  | build e => ∀ n ∈ e.counts, IsCount n

theorem reads_toJson {e : Event} (he : e.Counted) : Reads ofJson? e.toJson e := by
  cases e with
  | general d =>
    refine reads_record (by simp) fun fields hfields ↦ ?_
    have hdomain := hfields.required 0 "domain" rfl (reads_str "general")
    have hevent := hfields.required 1 "event" rfl (d.reads_toJson.map general)
    simp [hdomain, hevent]
  | build e =>
    refine reads_record (by simp) fun fields hfields ↦ ?_
    have hdomain := hfields.required 0 "domain" rfl (reads_str "build")
    have hevent := hfields.required 1 "event" rfl ((BuildEvent.reads_toJson he).map build)
    simp [hdomain, hevent]

/-- An event is read back from its wire form as it was, in whatever order the members arrive, and
no other event has that form. -/
theorem survives_wire {e : Event} (he : e.Counted) {v : Json} (hv : e.toJson.Reordered v) :
    ofJson? v = some e ∧ ∀ e' : Event, e'.Counted → e'.toJson.Reordered v → e' = e := by
  have hread := reads_toJson he v hv
  refine ⟨hread, fun e' he' hv' ↦ ?_⟩
  have hread' := reads_toJson he' v hv'
  exact Option.some.inj (hread'.symm.trans hread)

theorem survives_wire_of_tags_last :
    let failed := BuildEvent.stepFailed 0xFFFFFFFFFFFFFFFF "make lib" none 0
      ⟨none, "type", some "domain", false⟩
    let v : Json := .obj [("event", .obj (failed.members ++ [("type", .str failed.tag)])),
      ("domain", .str "build")]
    (build failed).Counted ∧ (build failed).toJson.Reordered v ∧
      ofJson? v = some (build failed) := by
  intro failed v
  have hcounted : (build failed).Counted := by
    simp [Counted, failed, BuildEvent.counts, IsCount]
  have hlast : ([("type", Json.str failed.tag)] ++ failed.members).Perm
      (failed.members ++ [("type", .str failed.tag)]) := List.perm_append_comm
  have htagged : Reordered failed.toJson (.obj (failed.members ++ [("type", .str failed.tag)])) :=
    .obj rfl (List.forall₂_same.2 fun v _ ↦ .refl v) hlast
  have hmembers : List.Forall₂ Reordered ([("domain", Json.str "build"),
        ("event", failed.toJson)].map Prod.snd)
      ([("domain", .str "build"),
        ("event", .obj (failed.members ++ [("type", .str failed.tag)]))].map Prod.snd) :=
    .cons (.refl _) (.cons htagged .nil)
  have hv : (build failed).toJson.Reordered v := by
    refine .obj ?_ hmembers (.swap _ _ _)
    rfl
  exact ⟨hcounted, hv, (survives_wire hcounted hv).1⟩

end Event

end BuildHook
