import Mathlib.Data.List.Chain
import Mathlib.Data.List.Nodup
import Mathlib.Data.List.Range
import BuildHook.Hook.State

namespace BuildHook

namespace HookState

/-- The states that are moved to. A proposal that is not allowed changes nothing. -/
def accepted (total : Nat) : HookState → List HookState → List HookState
  | _, [] => []
  | state, next :: rest =>
    if state.allows total next then next :: accepted total next rest
    else accepted total state rest

def path (total : Nat) (proposals : List HookState) : List HookState :=
  idle :: accepted total idle proposals

def upTo (k : Nat) : List HookState := idle :: (List.range (k + 1)).map running

inductive IsPath (total : Nat) : List HookState → Prop
  | start : IsPath total [idle]
  | going (k : Nat) : k < total → IsPath total (upTo k)
  | stopped (k : Nat) : k < total → IsPath total (upTo k ++ [failed k])
  | finished (k : Nat) : k + 1 = total → IsPath total (upTo k ++ [succeeded])

variable {total : Nat}

theorem allows_iff {state next : HookState} :
    state.allows total next = true ↔
      (state = idle ∧ next = running 0 ∧ 0 < total) ∨
      (∃ k, state = running k ∧ next = running (k + 1) ∧ k + 1 < total) ∨
      (∃ k, state = running k ∧ next = failed k) ∨
      ∃ k, state = running k ∧ next = succeeded ∧ k + 1 = total := by
  cases state <;> cases next <;> simp [allows]
  case running.running current step =>
    rintro rfl
    rfl

theorem upTo_succ (k : Nat) : upTo (k + 1) = upTo k ++ [running (k + 1)] := by
  rw [upTo, List.range_succ, List.map_append]
  rfl

theorem length_upTo (k : Nat) : (upTo k).length = k + 2 := by
  rw [upTo, List.length_cons, List.length_map, List.length_range]

theorem getLast?_upTo (k : Nat) : (upTo k).getLast? = some (running k) := by
  cases k with
  | zero => rfl
  | succ k => rw [upTo_succ, List.getLast?_concat]

theorem nodup_upTo (k : Nat) : (upTo k).Nodup := by
  have hidle : idle ∉ (List.range (k + 1)).map running := by simp
  have hinjective : Function.Injective running := fun _ _ h ↦ running.inj h
  exact List.nodup_cons.2 ⟨hidle, List.nodup_range.map hinjective⟩

theorem IsPath.append {p : List HookState} {state next : HookState} (h : IsPath total p)
    (hlast : p.getLast? = some state) (hallows : state.allows total next = true) :
    IsPath total (p ++ [next]) := by
  cases h with
  | start =>
    obtain rfl : idle = state := Option.some.inj hlast
    rcases allows_iff.1 hallows with ⟨-, rfl, htotal⟩ | ⟨_, h, -⟩ | ⟨_, h, -⟩ | ⟨_, h, -⟩
    · exact .going 0 htotal
    all_goals nomatch h
  | going k hk =>
    obtain rfl : running k = state := Option.some.inj ((getLast?_upTo k).symm.trans hlast)
    rcases allows_iff.1 hallows with ⟨h, -⟩ | ⟨_, h, rfl, hnext⟩ | ⟨_, h, rfl⟩ | ⟨_, h, rfl, hend⟩
    · nomatch h
    all_goals cases h
    · rw [← upTo_succ]
      exact .going (k + 1) hnext
    · exact .stopped k hk
    · exact .finished k hend
  | stopped k hk =>
    obtain rfl : failed k = state := by simpa using hlast
    nomatch hallows
  | finished k hk =>
    obtain rfl : succeeded = state := by simpa using hlast
    nomatch hallows

theorem IsPath.exists_eq_cons {p : List HookState} (h : IsPath total p) :
    ∃ rest, p = idle :: rest := by
  cases h with
  | start => exact ⟨_, rfl⟩
  | going k hk => exact ⟨_, rfl⟩
  | stopped k hk => exact ⟨_, rfl⟩
  | finished k hk => exact ⟨_, rfl⟩

def Linked (total : Nat) (p : List HookState) : Prop :=
  p.IsChain fun state next ↦ state.allows total next = true

theorem Linked.append {p : List HookState} {state next : HookState} (h : Linked total p)
    (hlast : p.getLast? = some state) (hallows : state.allows total next = true) :
    Linked total (p ++ [next]) := by
  refine List.IsChain.append h (.singleton _) ?_
  intro last hmem first hfirst
  obtain rfl : state = last := Option.some.inj (hlast.symm.trans hmem)
  obtain rfl : next = first := Option.some.inj hfirst
  exact hallows

theorem linked_upTo {k : Nat} (hk : k < total) : Linked total (upTo k) := by
  induction k with
  | zero =>
    have hallows : idle.allows total (running 0) = true := by simp [allows, hk]
    exact List.isChain_pair.2 hallows
  | succ k ih =>
    have hallows : (running k).allows total (running (k + 1)) = true := by simp [allows, hk]
    rw [upTo_succ]
    exact (ih (by omega)).append (getLast?_upTo k) hallows

theorem IsPath.linked {p : List HookState} (h : IsPath total p) : Linked total p := by
  cases h with
  | start => exact .singleton _
  | going k hk => exact linked_upTo hk
  | stopped k hk =>
    have hallows : (running k).allows total (failed k) = true := by simp [allows]
    exact (linked_upTo hk).append (getLast?_upTo k) hallows
  | finished k hk =>
    have hallows : (running k).allows total succeeded = true := by simp [allows, hk]
    exact (linked_upTo (by omega)).append (getLast?_upTo k) hallows

theorem isPath_of_linked {rest : List HookState} (h : Linked total (idle :: rest)) :
    IsPath total (idle :: rest) := by
  -- a path grows at its end, where the next move is made
  induction rest using List.reverseRecOn with
  | nil => exact .start
  | append_singleton rest next ih =>
    rw [← List.cons_append] at h ⊢
    obtain ⟨hrest, -, hmove⟩ := List.isChain_append.1 h
    obtain ⟨last, hlast⟩ : ∃ last, (idle :: rest).getLast? = some last :=
      ⟨_, List.getLast?_eq_some_getLast (List.cons_ne_nil _ _)⟩
    exact (ih hrest).append hlast (hmove last hlast next rfl)

theorem isPath_iff_linked {p : List HookState} :
    IsPath total p ↔ p.head? = some idle ∧ Linked total p := by
  constructor
  · intro h
    obtain ⟨rest, rfl⟩ := h.exists_eq_cons
    exact ⟨rfl, h.linked⟩
  · rintro ⟨hhead, hlinked⟩
    obtain ⟨rest, rfl⟩ := List.head?_eq_some_iff.1 hhead
    exact isPath_of_linked hlinked

theorem linked_accepted (total : Nat) (state : HookState) (proposals : List HookState) :
    Linked total (state :: accepted total state proposals) := by
  induction proposals generalizing state with
  | nil => exact .singleton _
  | cons next rest ih =>
    rw [accepted]
    split
    case isTrue hallows => exact List.isChain_cons_cons.2 ⟨hallows, ih next⟩
    case isFalse => exact ih state

theorem accepted_of_linked {state : HookState} {rest : List HookState}
    (h : Linked total (state :: rest)) : accepted total state rest = rest := by
  induction rest generalizing state with
  | nil => rfl
  | cons next rest ih =>
    obtain ⟨hallows, hrest⟩ := List.isChain_cons_cons.1 h
    rw [accepted, if_pos hallows, ih hrest]

theorem isPath_path (total : Nat) (proposals : List HookState) :
    IsPath total (path total proposals) :=
  isPath_of_linked (linked_accepted total idle proposals)

theorem IsPath.path_tail {p : List HookState} (h : IsPath total p) : path total p.tail = p := by
  obtain ⟨rest, rfl⟩ := h.exists_eq_cons
  exact congrArg (idle :: ·) (accepted_of_linked h.linked)

theorem IsPath.nodup {p : List HookState} (h : IsPath total p) : p.Nodup := by
  cases h with
  | start => exact List.nodup_singleton _
  | going k hk => exact nodup_upTo k
  | stopped k hk =>
    have hnew : failed k ∉ upTo k := by simp [upTo]
    rw [← List.concat_eq_append]
    exact .concat hnew (nodup_upTo k)
  | finished k hk =>
    have hnew : succeeded ∉ upTo k := by simp [upTo]
    rw [← List.concat_eq_append]
    exact .concat hnew (nodup_upTo k)

theorem IsPath.length_le {p : List HookState} (h : IsPath total p) :
    p.length ≤ total + 2 := by
  cases h with
  | start => exact Nat.le_add_left 1 (total + 1)
  | going k hk =>
    rw [length_upTo]
    omega
  | stopped k hk =>
    rw [List.length_append, length_upTo, List.length_singleton]
    omega
  | finished k hk =>
    rw [List.length_append, length_upTo, List.length_singleton]
    omega

theorem IsPath.eq_start {p : List HookState} (h : IsPath 0 p) : p = [idle] := by
  cases h with
  | start => rfl
  | going k hk => exact absurd hk (Nat.not_lt_zero k)
  | stopped k hk => exact absurd hk (Nat.not_lt_zero k)
  | finished k hk => exact absurd hk (Nat.succ_ne_zero k)

/-- The states that a hook moves through are one of the paths, whatever is proposed to it, and each
of them can be had, move by move. None comes back to a state, an end is never left, and with no
steps nothing is ever moved to. -/
theorem path_iff (total : Nat) :
    (∀ p, (∃ proposals, path total proposals = p) ↔ IsPath total p) ∧
      (∀ p, IsPath total p ↔
        p.head? = some idle ∧ p.IsChain fun state next ↦ state.allows total next = true) ∧
      (∀ proposals, (idle :: accepted total idle proposals).Nodup ∧
        (accepted total idle proposals).length ≤ total + 1) ∧
      (∀ k next, (failed k).allows total next = false ∧ succeeded.allows total next = false) ∧
      ∀ proposals, accepted 0 idle proposals = [] := by
  refine ⟨fun p ↦ ⟨?_, fun h ↦ ⟨p.tail, h.path_tail⟩⟩, fun p ↦ isPath_iff_linked, ?_, ?_, ?_⟩
  · rintro ⟨proposals, rfl⟩
    exact isPath_path total proposals
  · intro proposals
    have hpath := isPath_path total proposals
    exact ⟨hpath.nodup, Nat.le_of_succ_le_succ hpath.length_le⟩
  · exact fun k next ↦ ⟨rfl, rfl⟩
  · intro proposals
    exact (List.cons.inj (isPath_path 0 proposals).eq_start).2

end HookState

end BuildHook
