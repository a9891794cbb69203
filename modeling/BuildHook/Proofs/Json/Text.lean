import Mathlib.Tactic.SplitIfs
import BuildHook.Proofs.Json.Parse

namespace BuildHook.Json

/-- A value without numbers that have a fraction or an exponent. -/
inductive Whole : Json → Prop
  | null : Whole .null
  | bool (b : Bool) : Whole (.bool b)
  | int (n : Int) : Whole (.int n)
  | str (s : String) : Whole (.str s)
  | arr {items : List Json} (h : ∀ v ∈ items, Whole v) : Whole (.arr items)
  | obj {members : List (String × Json)} (h : ∀ m ∈ members, Whole m.2) : Whole (.obj members)

section Pieces

variable (progress : Progress)

theorem read?_blank {c : Char} (h : isBlank c = true) (rest : List Char) :
    read? .none progress (c :: rest) = read? .none progress rest := by
  have hstart : Piece.start c = ([], .none) := by
    simp only [isBlank, Bool.or_eq_true, decide_eq_true_eq] at h
    rcases h with ((rfl | rfl) | rfl) | rfl <;> rfl
  rw [read?, Piece.next, hstart]
  rfl

theorem read?_newline (depth : Nat) (rest : List Char) :
    read? .none progress ((newline depth).toList ++ rest) = read? .none progress rest := by
  have hblanks (n : Nat) : read? .none progress (List.replicate n ' ' ++ rest) =
      read? .none progress rest := by
    induction n with
    | zero => rfl
    | succ n ih => rw [List.replicate_succ, List.cons_append, read?_blank progress rfl, ih]
  simp only [newline, String.toList_append, String.toList_ofList, List.append_assoc]
  exact (read?_blank progress rfl _).trans (hblanks (2 * depth))

theorem read?_mark {c : Char} (h : isMark c = true) (rest : List Char) :
    read? .none progress (c :: rest) =
      (progress.accept (.mark c)).bind fun progress ↦ read? .none progress rest := by
  have hstart : Piece.start c = ([.mark c], .none) := by
    have hquote : c ≠ '"' := by
      rintro rfl
      exact absurd h (by decide)
    rw [Piece.start, if_neg hquote, if_pos h]
  rw [read?, Piece.next, hstart]
  simp

theorem read?_word_append {w : List Char} (h : ∀ c ∈ w, isBreak c = false) (l rest : List Char) :
    read? (.word l) progress (w ++ rest) = read? (.word (w.reverse ++ l)) progress rest := by
  induction w generalizing l with
  | nil => rfl
  | cons c w ih =>
    rw [List.forall_mem_cons] at h
    rw [List.cons_append, read?, Piece.next, h.1, if_neg Bool.false_ne_true, List.reverse_cons,
      List.append_assoc]
    exact ih h.2 (c :: l)

theorem start_of_not_isBreak {c : Char} (h : isBreak c = false) :
    Piece.start c = ([], .word [c]) := by
  simp only [isBreak, Bool.or_eq_false_iff, decide_eq_false_iff_not] at h
  obtain ⟨⟨hblank, hmark⟩, hquote⟩ := h
  simp [Piece.start, hquote, hmark, hblank]

theorem read?_word {w : List Char} (hw : ∀ c ∈ w, isBreak c = false) (hne : w ≠ []) {c : Char}
    (hc : isBreak c = true) (rest : List Char) :
    read? .none progress (w ++ c :: rest) =
      (progress.accept (.word w)).bind fun progress ↦ read? .none progress (c :: rest) := by
  obtain ⟨d, w, rfl⟩ := List.exists_cons_of_ne_nil hne
  rw [List.forall_mem_cons] at hw
  have hfirst : read? .none progress (d :: w ++ c :: rest) =
      read? (.word [d]) progress (w ++ c :: rest) := by
    rw [List.cons_append, read?, Piece.next, start_of_not_isBreak hw.1]
    rfl
  rw [hfirst, read?_word_append progress hw.2, read?, Piece.next, hc, if_pos rfl]
  simp [read?, Piece.next, Option.bind_assoc]

theorem read?_text_append {raw l : List Char} {rest : List Char}
    (h : ∀ c ∈ raw, c ≠ '"' ∧ c ≠ '\\') :
    read? (.text l) progress (raw ++ rest) = read? (.text (raw.reverse ++ l)) progress rest := by
  induction raw generalizing l with
  | nil => rfl
  | cons c raw ih =>
    rw [List.forall_mem_cons] at h
    obtain ⟨⟨hquote, hslash⟩, h⟩ := h
    rw [List.cons_append, read?, Piece.next, if_neg hquote, if_neg hslash, List.reverse_cons,
      List.append_assoc]
    exact ih h

theorem digitChar_plain : ∀ n < 16, n.digitChar ≠ '"' ∧ n.digitChar ≠ '\\' := by decide

theorem toList_control (n : Nat) : ("\\u00" ++ controlCode n).toList =
    '\\' :: 'u' :: ['0', '0', (n / 16).digitChar, (n % 16).digitChar] := by
  simp [controlCode]

theorem read?_escape (c : Char) (l rest : List Char) :
    read? (.text l) progress ((escape c).toList ++ rest) =
      read? (.text ((escape c).toList.reverse ++ l)) progress rest := by
  unfold escape
  split_ifs with hquote hslash hback htab hfeed hform hreturn hcontrol
  · rfl
  · rfl
  · rfl
  · rfl
  · rfl
  · rfl
  · rfl
  · let digits := ['0', '0', (c.toNat / 16).digitChar, (c.toNat % 16).digitChar]
    have hdigits : ∀ d ∈ digits, d ≠ '"' ∧ d ≠ '\\' := by
      have hhigh := digitChar_plain (c.toNat / 16) (by omega)
      have hlow := digitChar_plain (c.toNat % 16) (by omega)
      simp [digits, hhigh, hlow]
    have hescape : read? (.text l) progress ('\\' :: 'u' :: digits ++ rest) =
        read? (.text ('u' :: '\\' :: l)) progress (digits ++ rest) := rfl
    rw [toList_control, hescape, read?_text_append progress hdigits]
    rfl
  · refine read?_text_append progress ?_
    simp [hquote, hslash]

def escaped (l : List Char) : List Char := l.flatMap fun c ↦ (escape c).toList

theorem toList_quote (s : String) :
    (quote s).toList = '"' :: (escaped s.toList ++ ['"']) := by
  simp [quote, escaped, List.flatMap_map]

theorem read?_escaped (s l rest : List Char) :
    read? (.text l) progress (escaped s ++ rest) =
      read? (.text ((escaped s).reverse ++ l)) progress rest := by
  induction s generalizing l with
  | nil => rfl
  | cons c s ih =>
    rw [escaped, List.flatMap_cons, List.append_assoc, read?_escape, List.reverse_append,
      List.append_assoc]
    exact ih _

theorem read?_quote (s : String) (rest : List Char) :
    read? .none progress ((quote s).toList ++ rest) =
      (progress.accept (.text (escaped s.toList))).bind fun progress ↦
        read? .none progress rest := by
  have hopen : read? .none progress ((quote s).toList ++ rest) =
      read? (.text []) progress (escaped s.toList ++ '"' :: rest) := by
    rw [toList_quote, List.cons_append, List.append_assoc]
    rfl
  rw [hopen, read?_escaped, List.append_nil, read?, Piece.next, if_pos rfl, List.reverse_reverse]
  simp

end Pieces

section Unescape

theorem hexDigit?_digitChar : ∀ n < 16, hexDigit? n.digitChar = some n := by decide

theorem unit?_control {n : Nat} (h : n < 0x20) :
    unit? '0' '0' (n / 16).digitChar (n % 16).digitChar = some n := by
  have hzero : hexDigit? '0' = some 0 := rfl
  simp only [unit?, hzero, hexDigit?_digitChar (n / 16) (by omega),
    hexDigit?_digitChar (n % 16) (by omega)]
  exact congrArg some (by omega)

theorem codes?_cons {c : Char} (h : c ≠ '\\') (hcode : ¬ c.toNat < 0x20) (rest : List Char) :
    codes? (c :: rest) = (codes? rest).map (c.toNat :: ·) := by
  rw [codes?, if_neg hcode]
  · exact fun _ _ _ _ _ hc _ ↦ h hc
  · exact fun _ _ hc _ ↦ h hc

theorem codes?_unit {a b c d : Char} {unit : Nat} (h : unit? a b c d = some unit)
    (rest : List Char) :
    codes? ('\\' :: 'u' :: a :: b :: c :: d :: rest) = (codes? rest).map (unit :: ·) := by
  rw [codes?, h]
  rfl

theorem codes?_escape (c : Char) (rest : List Char) :
    codes? ((escape c).toList ++ rest) = (codes? rest).map (c.toNat :: ·) := by
  unfold escape
  split_ifs with hquote hslash hback htab hfeed hform hreturn hcontrol
  · subst hquote; rfl
  · subst hslash; rfl
  · subst hback; rfl
  · subst htab; rfl
  · subst hfeed; rfl
  · subst hform; rfl
  · subst hreturn; rfl
  · rw [toList_control]
    exact codes?_unit (unit?_control hcontrol) rest
  · rw [Char.toString, String.toList_singleton]
    exact codes?_cons hslash hcontrol rest

theorem codes?_escaped (l : List Char) : codes? (escaped l) = some (l.map Char.toNat) := by
  induction l with
  | nil => rfl
  | cons c l ih =>
    rw [escaped, List.flatMap_cons, codes?_escape]
    exact congrArg (Option.map (c.toNat :: ·)) ih

theorem join?_toNat (c : Char) (l : List Char) : join? c.toNat (none, l) = some (none, c :: l) := by
  -- no character has the code of a half
  have hvalid : c.toNat < 0xD800 ∨ 0xDFFF < c.toNat ∧ c.toNat < 0x110000 := c.valid
  have hlow : isLow c.toNat = false := by
    simp only [isLow, Bool.and_eq_false_iff, decide_eq_false_iff_not]
    omega
  have hhigh : isHigh c.toNat = false := by
    simp only [isHigh, Bool.and_eq_false_iff, decide_eq_false_iff_not]
    omega
  simp [join?, hlow, hhigh]

theorem unescape?_escaped (l : List Char) : unescape? (escaped l) = some l := by
  have hjoin : (l.map Char.toNat).foldrM join? (none, []) = some (none, l) := by
    induction l with
    | nil => rfl
    | cons c l ih =>
      rw [List.map_cons, List.foldrM_cons, ih]
      exact join?_toNat c l
  simp only [unescape?, codes?_escaped, Option.bind_eq_bind, Option.bind_some, hjoin]

end Unescape

section Numbers

theorem head?_toDigits {n : Nat} (h : (Nat.toDigits 10 n).head? = some '0') : n = 0 := by
  induction n using Nat.strongRecOn with
  | _ n ih =>
    rw [Nat.toDigits_eq_if (by decide)] at h
    split at h
    · next hn =>
      have hdigits : ∀ n < 10, n.digitChar = '0' → n = 0 := by decide
      exact hdigits n hn (by simpa using h)
    · next hn =>
      have hne : Nat.toDigits 10 (n / 10) ≠ [] := Nat.toDigits_ne_nil
      obtain ⟨d, l, hdigits⟩ := List.exists_cons_of_ne_nil hne
      rw [hdigits] at h
      have hquotient := ih (n / 10) (by omega) (by rw [hdigits]; exact h)
      omega

theorem natural?_toDigits (n : Nat) : natural? (Nat.toDigits 10 n) = some n := by
  have hnumeral : isNumeral (Nat.toDigits 10 n) = true := by
    rw [isNumeral, Bool.and_eq_true, List.all_eq_true]
    refine ⟨by simp [Nat.toDigits_ne_nil], fun c hc ↦ ?_⟩
    exact Nat.isDigit_of_mem_toDigits (by decide) (by decide) hc
  have hfirst : (Nat.toDigits 10 n).head? ≠ some '0' ∨ (Nat.toDigits 10 n).length = 1 := by
    by_cases hzero : (Nat.toDigits 10 n).head? = some '0'
    · rw [head?_toDigits hzero]
      exact .inr rfl
    · exact .inl hzero
  rw [natural?, hnumeral, if_pos (by simpa using hfirst), Nat.ofDigitChars_ten_toDigits]

theorem integer?_of_ne {l : List Char} (h : l.head? ≠ some '-') :
    integer? l = (natural? l).map Int.ofNat := by
  unfold integer?
  split
  · simp at h
  · rfl

theorem toList_toString_ofNat (n : Nat) :
    (toString (Int.ofNat n)).toList = Nat.toDigits 10 n := String.toList_ofList

theorem toList_toString_negSucc (n : Nat) :
    (toString (Int.negSucc n)).toList = '-' :: Nat.toDigits 10 (n + 1) := by
  have htext : toString (Int.negSucc n) = "-" ++ String.ofList (Nat.toDigits 10 (n + 1)) := rfl
  rw [htext]
  simp

theorem integer?_toString (n : Int) : integer? (toString n).toList = some n := by
  cases n with
  | ofNat n =>
    have hsign : (Nat.toDigits 10 n).head? ≠ some '-' := by
      intro h
      have hdigit := Nat.isDigit_of_mem_toDigits (by decide) (by decide) (List.mem_of_head? h)
      exact absurd hdigit (by decide)
    rw [toList_toString_ofNat, integer?_of_ne hsign, natural?_toDigits]
    rfl
  | negSucc n =>
    rw [toList_toString_negSucc, integer?, natural?_toDigits]
    rfl

theorem word?_toString (n : Int) : word? (toString n).toList = some (.int n) := by
  have hword {l : List Char} (h : integer? l = none) : (toString n).toList ≠ l := by
    rintro rfl
    rw [integer?_toString] at h
    cases h
  rw [word?, if_neg (hword rfl), if_neg (hword rfl), if_neg (hword rfl), number?,
    integer?_toString]

theorem not_isBreak_of_isDigit {c : Char} (h : c.isDigit = true) : isBreak c = false := by
  cases hbreak : isBreak c with
  | false => rfl
  | true =>
    simp only [isBreak, isBlank, isMark, Bool.or_eq_true, decide_eq_true_eq] at hbreak
    rcases hbreak with ((((rfl | rfl) | rfl) | rfl) | (((((rfl | rfl) | rfl) | rfl) | rfl) | rfl)) |
      rfl
    all_goals exact absurd h (by decide)

theorem not_isBreak_of_mem_toString {n : Int} {c : Char} (h : c ∈ (toString n).toList) :
    isBreak c = false := by
  have hdigits {m : Nat} (h : c ∈ Nat.toDigits 10 m) : isBreak c = false :=
    not_isBreak_of_isDigit (Nat.isDigit_of_mem_toDigits (by decide) (by decide) h)
  cases n with
  | ofNat n =>
    rw [toList_toString_ofNat] at h
    exact hdigits h
  | negSucc n =>
    rw [toList_toString_negSucc, List.mem_cons] at h
    rcases h with rfl | h
    · rfl
    · exact hdigits h

end Numbers

/-- Where a value has to come, the text stands for the value. -/
def Denotes (text : List Char) (v : Json) : Prop :=
  ∀ frames first c rest, isBreak c = true →
    read? .none (frames, .value first) (text ++ c :: rest) =
      read? .none (frames, .more v) (c :: rest)

theorem denotes_word {w : List Char} {v : Json} (hw : ∀ c ∈ w, isBreak c = false)
    (h : word? w = some v) : Denotes w v := by
  intro frames first c rest hc
  have hne : w ≠ [] := by
    rintro rfl
    cases h
  rw [read?_word _ hw hne hc, Progress.accept, h]
  rfl

theorem denotes_null : Denotes "null".toList .null :=
  denotes_word (by simp [isBreak, isBlank, isMark]) rfl

theorem denotes_bool (b : Bool) : Denotes (if b then "true" else "false").toList (.bool b) := by
  cases b with
  | false => exact denotes_word (by simp [isBreak, isBlank, isMark]) rfl
  | true => exact denotes_word (by simp [isBreak, isBlank, isMark]) rfl

theorem denotes_int (n : Int) : Denotes (toString n).toList (.int n) :=
  denotes_word (fun _ ↦ not_isBreak_of_mem_toString) (word?_toString n)

theorem denotes_quote (s : String) : Denotes (quote s).toList (.str s) := by
  intro frames first c rest _
  rw [read?_quote, Progress.accept, unescape?_escaped, Option.map_some, String.ofList_toList]
  rfl

theorem toList_block_cons (depth : Nat) (left right line : String) (lines : List String) :
    (block depth left right (line :: lines)).toList =
      left.toList ++ ((newline (depth + 1)).toList ++
        ((',' :: (newline (depth + 1)).toList).intercalate ((line :: lines).map String.toList) ++
          ((newline depth).toList ++ right.toList))) := by
  simp [block, String.toList_intercalate]

section Block

variable {α : Type} {write : α → String} (opened : List α → Bool → Progress)
  (entered : List α → α → Progress) (closed : List α → Progress)

/-- The entries of a list are read one after the other, up to the bracket behind the last. -/
theorem read?_entries {right : Char} (hright : isMark right = true)
    (hcomma : ∀ before x,
      (entered before x).accept (.mark ',') = some (opened (x :: before) false))
    (hclose : ∀ before x,
      (entered before x).accept (.mark right) = some (closed (x :: before).reverse))
    {l : List α} (hentry : ∀ x ∈ l, ∀ before first c rest, isBreak c = true →
      read? .none (opened before first) ((write x).toList ++ c :: rest) =
        read? .none (entered before x) (c :: rest))
    (hne : l ≠ []) (depth : Nat) (before : List α) (first : Bool) (rest : List Char) :
    read? .none (opened before first)
        ((',' :: (newline (depth + 1)).toList).intercalate (l.map fun x ↦ (write x).toList) ++
          ((newline depth).toList ++ right :: rest)) =
      read? .none (closed (before.reverse ++ l)) rest := by
  have hnewline (depth : Nat) (rest : List Char) : ∃ blanks,
      (newline depth).toList ++ rest = '\n' :: blanks := ⟨_, by simp [newline]; rfl⟩
  induction l generalizing before first with
  | nil => exact absurd rfl hne
  | cons x l ih =>
    rw [List.forall_mem_cons] at hentry
    obtain ⟨hx, hentry⟩ := hentry
    cases l with
    | nil =>
      -- the last entry ends at the line break in front of the bracket, the others at a comma
      obtain ⟨blanks, hblanks⟩ := hnewline depth (right :: rest)
      rw [List.map_singleton, List.intercalate_singleton, hblanks, hx _ _ _ _ rfl, ← hblanks,
        read?_newline, read?_mark _ hright, hclose, List.reverse_cons]
      rfl
    | cons y l =>
      have htail := ih hentry (List.cons_ne_nil y l) (x :: before) false
      rw [List.map_cons] at htail
      rw [List.map_cons, List.map_cons, List.intercalate_cons_cons, List.append_assoc,
        List.append_assoc, List.cons_append, hx _ _ _ _ rfl, read?_mark _ rfl, hcomma,
        Option.bind_some, read?_newline, htail, List.reverse_cons, List.append_assoc]
      rfl

theorem read?_block {progress : Progress} {left right : String} {l r : Char}
    (hleft : left.toList = [l]) (hright : right.toList = [r])
    (hl : isMark l = true) (hr : isMark r = true)
    (hopen : progress.accept (.mark l) = some (opened [] true))
    (hempty : (opened [] true).accept (.mark r) = some (closed []))
    (hcomma : ∀ before x,
      (entered before x).accept (.mark ',') = some (opened (x :: before) false))
    (hclose : ∀ before x,
      (entered before x).accept (.mark r) = some (closed (x :: before).reverse))
    {entries : List α} (hentry : ∀ x ∈ entries, ∀ before first c rest, isBreak c = true →
      read? .none (opened before first) ((write x).toList ++ c :: rest) =
        read? .none (entered before x) (c :: rest))
    (depth : Nat) (rest : List Char) :
    read? .none progress ((block depth left right (entries.map write)).toList ++ rest) =
      read? .none (closed entries) rest := by
  cases entries with
  | nil =>
    have hblock : (block depth left right []).toList = [l, r] := by simp [block, hleft, hright]
    rw [List.map_nil, hblock, List.cons_append, read?_mark _ hl, hopen]
    exact (read?_mark _ hr rest).trans (by rw [hempty, Option.bind_some])
  | cons x entries =>
    have hread := read?_entries opened entered closed hr hcomma hclose hentry
      (List.cons_ne_nil x entries) depth [] true rest
    rw [List.map_cons, toList_block_cons, ← List.map_cons, List.map_map, hleft, hright,
      List.append_assoc, List.singleton_append, read?_mark _ hl, hopen, Option.bind_some,
      List.append_assoc, read?_newline, List.append_assoc, List.append_assoc]
    exact hread

end Block

theorem prettyItems_eq_map (depth : Nat) (items : List Json) :
    prettyItems depth items = items.map (pretty depth) := by
  induction items with
  | nil => rfl
  | cons v items ih => rw [prettyItems, ih, List.map_cons]

def prettyMember (depth : Nat) (m : String × Json) : String :=
  quote m.1 ++ ": " ++ pretty depth m.2

theorem prettyMembers_eq_map (depth : Nat) (members : List (String × Json)) :
    prettyMembers depth members = members.map (prettyMember depth) := by
  induction members with
  | nil => rfl
  | cons m members ih => rw [prettyMembers, ih, List.map_cons, prettyMember]

theorem denotes_arr {items : List Json} {depth : Nat}
    (h : ∀ v ∈ items, Denotes (pretty (depth + 1) v).toList v) :
    Denotes (pretty depth (.arr items)).toList (.arr items) := by
  intro frames first c rest _
  rw [pretty, prettyItems_eq_map]
  exact read?_block (fun before first ↦ (.items before :: frames, .value first))
    (fun before v ↦ (.items before :: frames, .more v)) (fun items ↦ (frames, .more (.arr items)))
    rfl rfl rfl rfl rfl rfl (fun _ _ ↦ rfl) (fun _ _ ↦ rfl)
    (fun v hv before first c rest hc ↦ h v hv _ _ _ _ hc) depth (c :: rest)

theorem read?_member {m : String × Json} {depth : Nat} (h : Denotes (pretty depth m.2).toList m.2)
    (frames : List Frame) (before : List (String × Json)) (first : Bool) {c : Char}
    (hc : isBreak c = true) (rest : List Char) :
    read? .none (frames, .name first before) ((prettyMember depth m).toList ++ c :: rest) =
      read? .none (.members before m.1 :: frames, .more m.2) (c :: rest) := by
  have htext : (prettyMember depth m).toList ++ c :: rest =
      (quote m.1).toList ++ (':' :: ' ' :: ((pretty depth m.2).toList ++ c :: rest)) := by
    simp [prettyMember]
  rw [htext, read?_quote, Progress.accept, unescape?_escaped, Option.map_some, Option.bind_some,
    String.ofList_toList, read?_mark _ rfl, Progress.accept, Option.bind_some, read?_blank _ rfl]
  exact h _ _ _ _ hc

theorem denotes_obj {members : List (String × Json)} {depth : Nat}
    (h : ∀ m ∈ members, Denotes (pretty (depth + 1) m.2).toList m.2) :
    Denotes (pretty depth (.obj members)).toList (.obj members) := by
  intro frames first c rest _
  rw [pretty, prettyMembers_eq_map]
  exact read?_block (fun before first ↦ (frames, .name first before))
    (fun before m ↦ (.members before m.1 :: frames, .more m.2))
    (fun members ↦ (frames, .more (.obj members)))
    rfl rfl rfl rfl rfl rfl (fun _ _ ↦ rfl) (fun _ _ ↦ rfl)
    (fun m hm before first c rest hc ↦ read?_member (h m hm) frames before first hc rest) depth
    (c :: rest)

theorem denotes_pretty {v : Json} (h : v.Whole) (depth : Nat) :
    Denotes (pretty depth v).toList v := by
  induction h generalizing depth with
  | null => exact denotes_null
  | bool b => exact denotes_bool b
  | int n => exact denotes_int n
  | str s => exact denotes_quote s
  | arr _ ih => exact denotes_arr fun v hv ↦ ih v hv (depth + 1)
  | obj _ ih => exact denotes_obj fun m hm ↦ ih m hm (depth + 1)

/-- What is written of a value is read as the value, with any blanks behind it. -/
theorem ofText?_pretty {v : Json} (h : v.Whole) {blanks : String}
    (hblanks : blanks.toList.all isBlank = true) :
    ofText? (pretty 0 v ++ blanks) = some v := by
  have hend (progress : Progress) {l : List Char} (hl : ∀ c ∈ l, isBlank c = true) :
      read? .none progress l = some (.none, progress) := by
    induction l with
    | nil => rfl
    | cons c l ih =>
      rw [List.forall_mem_cons] at hl
      rw [read?_blank progress hl.1, ih hl.2]
  have htail : ∀ c ∈ blanks.toList ++ [' '], isBlank c = true := by
    rw [← List.all_eq_true, List.all_append, hblanks]
    rfl
  have hread : read? .none ([], .value false) ((pretty 0 v ++ blanks).toList ++ [' ']) =
      some (.none, [], .more v) := by
    rw [String.toList_append, List.append_assoc]
    cases hcons : blanks.toList ++ [' '] with
    | nil => simp at hcons
    | cons c rest =>
      rw [hcons] at htail
      have hc : isBreak c = true := by simp [isBreak, htail c List.mem_cons_self]
      rw [denotes_pretty h 0 [] false c rest hc, hend _ htail]
  rw [ofText?, hread]

theorem Whole.legible {v : Json} (h : v.Whole) : ofText? (pretty 0 v) = some v := by
  rw [← String.append_empty (s := pretty 0 v)]
  exact ofText?_pretty h rfl

/-- Other writers may use escapes and fractions, and need not break lines. -/
example : (ofText? "\x7b\"\\u00e9\":[1,-20.5e3, \"\\ud83d\\ude00\"]\x7d").map compact =
    some "\x7b\"é\":[1,-20.5e3,\"😀\"]\x7d" := by decide +kernel

end BuildHook.Json
