import Mathlib.Tactic.SplitIfs
import BuildHook.Text.Basic
import BuildHook.Toml.Scalar

namespace BuildHook

namespace Text

theorem digitValue_digitChar : ∀ n < 16, Toml.digitValue n.digitChar = n := by decide

theorem numeral_append (base : Nat) (digits : List Char) (c : Char) :
    Toml.numeral base (digits ++ [c]) = Toml.numeral base digits * base + Toml.digitValue c := by
  simp [Toml.numeral]

theorem numeral_toDigits (n : Nat) :
    Toml.numeral 16 (Nat.toDigits 16 n) = n ∧ '\x7d' ∉ Nat.toDigits 16 n := by
  induction n using Nat.strongRecOn with
  | _ n ih =>
    rw [Nat.toDigits_eq_if (by decide)]
    split
    · next hn =>
      refine ⟨?_, by simp⟩
      simpa [Toml.numeral] using digitValue_digitChar n hn
    · obtain ⟨hvalue, hbrace⟩ := ih (n / 16) (by omega)
      refine ⟨?_, by simp [hbrace]⟩
      rw [numeral_append, hvalue, digitValue_digitChar _ (Nat.mod_lt n (by decide))]
      omega

def unquoteChar : List Char → Option (Char × List Char)
  | '\\' :: '0' :: rest => some ('\x00', rest)
  | '\\' :: 't' :: rest => some ('\t', rest)
  | '\\' :: 'r' :: rest => some ('\r', rest)
  | '\\' :: 'n' :: rest => some ('\n', rest)
  | '\\' :: '"' :: rest => some ('"', rest)
  | '\\' :: '\\' :: rest => some ('\\', rest)
  | '\\' :: 'u' :: '\x7b' :: rest =>
    some (.ofNat (Toml.numeral 16 (rest.takeWhile (· ≠ '\x7d'))),
      (rest.dropWhile (· ≠ '\x7d')).drop 1)
  | c :: rest => some (c, rest)
  | [] => none

theorem unquoteChar_cons {c : Char} (h : c ≠ '\\') (rest : List Char) :
    unquoteChar (c :: rest) = some (c, rest) := by
  unfold unquoteChar
  split <;> simp_all

theorem unquoteChar_hex (c : Char) (rest : List Char) :
    unquoteChar (("\\u\x7b" ++ hex c.toNat ++ "\x7d").toList ++ rest) = some (c, rest) := by
  obtain ⟨hvalue, hfree⟩ := numeral_toDigits c.toNat
  have hdigits : ∀ d ∈ Nat.toDigits 16 c.toNat, decide (d ≠ '\x7d') = true := by
    intro d hd
    rw [decide_eq_true_iff]
    rintro rfl
    exact hfree hd
  have htext : ("\\u\x7b" ++ hex c.toNat ++ "\x7d").toList ++ rest =
      '\\' :: 'u' :: '\x7b' :: (Nat.toDigits 16 c.toNat ++ '\x7d' :: rest) := by
    simp [hex]
  rw [htext, unquoteChar, List.takeWhile_append_of_pos hdigits,
    List.dropWhile_append_of_pos hdigits]
  simp [hvalue]

theorem unquoteChar_quoteChar (c : Char) (rest : List Char) :
    unquoteChar ((quoteChar c).toList ++ rest) = some (c, rest) := by
  unfold quoteChar
  split_ifs with hnul htab hreturn hfeed hquote hslash
  · subst hnul; rfl
  · subst htab; rfl
  · subst hreturn; rfl
  · subst hfeed; rfl
  · subst hquote; rfl
  · subst hslash; rfl
  · rw [Char.toString, String.toList_singleton]
    exact unquoteChar_cons hslash rest
  · exact unquoteChar_hex c rest

def quotedChars (l : List Char) : List Char := l.flatMap fun c ↦ (quoteChar c).toList

theorem unquoteChar_quotedChars (c : Char) (l : List Char) :
    unquoteChar (quotedChars (c :: l)) = some (c, quotedChars l) :=
  unquoteChar_quoteChar c (quotedChars l)

theorem quotedChars_injective {l k : List Char} (h : quotedChars l = quotedChars k) : l = k := by
  induction l generalizing k with
  | nil =>
    cases k with
    | nil => rfl
    | cons d k =>
      have hread := unquoteChar_quotedChars d k
      rw [← h] at hread
      nomatch hread
  | cons c l ih =>
    have hread := unquoteChar_quotedChars c l
    cases k with
    | nil =>
      rw [h] at hread
      nomatch hread
    | cons d k =>
      rw [h, unquoteChar_quotedChars, Option.some.injEq, Prod.mk.injEq] at hread
      obtain ⟨rfl, hrest⟩ := hread
      rw [ih hrest.symm]

theorem toList_quoted (s : String) : (quoted s).toList = '"' :: quotedChars s.toList ++ ['"'] := by
  simp [quoted, quotedChars, List.flatMap_map]

theorem quoted_injective {s t : String} (h : quoted s = quoted t) : s = t := by
  have hchars := congrArg String.toList h
  rw [toList_quoted, toList_quoted] at hchars
  have hinner := List.append_cancel_right (List.cons.inj hchars).2
  exact String.toList_injective (quotedChars_injective hinner)

theorem quotedOption_injective {s t : Option String} (h : quotedOption s = quotedOption t) :
    s = t := by
  have hne (s : String) : quotedOption none ≠ quotedOption (some s) := by
    intro h
    have hfirst := congrArg (fun s ↦ s.toList.head?) h
    simp [quotedOption] at hfirst
  cases s with
  | none =>
    cases t with
    | none => rfl
    | some t => exact absurd h (hne t)
  | some s =>
    cases t with
    | none => exact absurd h.symm (hne s)
    | some t =>
      rw [quotedOption, quotedOption, String.append_left_inj, String.append_right_inj] at h
      rw [quoted_injective h]

end Text

end BuildHook
