import Mathlib.Data.List.Forall2
import BuildHook.Console.Table

namespace BuildHook.Table

structure IsLines (lines : List String) (text : String) : Prop where
  ne_nil : lines ≠ []
  newline_notMem : ∀ line ∈ lines, '\n' ∉ line.toList
  intercalate : "\n".intercalate lines = text

/-- Each column is as wide as the widest line in it. The cells are given by their lines. -/
def Widths (rows : List (List (List String))) (widths : List Nat) : Prop :=
  ∀ column width, widths[column]? = some width →
    (∀ row ∈ rows, ∀ line ∈ row.getD column [], Text.width line ≤ width) ∧
      ∃ row ∈ rows, ∃ line ∈ row.getD column [], Text.width line = width

/-- A line in a column: with blanks up to the width, and one more on each side. -/
def Fills (width : Nat) (line field : String) : Prop :=
  ∃ blanks, Text.width line + blanks = width ∧
    field = " " ++ line ++ String.ofList (List.replicate blanks ' ') ++ " "

/-- A row is drawn in as many lines as its highest cell has, the cells side by side. -/
structure DrawsRow (widths : List Nat) (cells : List (List String)) (drawn : List String) :
    Prop where
  columns : cells.length = widths.length
  height : (cells.map List.length).max? = some drawn.length
  lines : ∀ i line, drawn[i]? = some line → ∃ fields,
    List.Forall₂ (fun column field ↦ Fills column.1 (column.2.getD i "") field)
      (widths.zip cells) fields ∧ line = "│" ++ "┆".intercalate fields ++ "│"

def ruled (left fill cross right : Char) (widths : List Nat) : String :=
  String.ofList
    (left :: [cross].intercalate (widths.map fun w ↦ List.replicate (w + 2) fill) ++ [right])

/-- The text draws a table: the header, a double rule, and the rows with dashed rules between
them, all in a frame. -/
def Draws (header : List String) (rows : List (List String)) (text : String) : Prop :=
  ∃ head body widths top blocks,
    List.Forall₂ IsLines head header ∧ List.Forall₂ (List.Forall₂ IsLines) body rows ∧
      Widths (head :: body) widths ∧ DrawsRow widths head top ∧
      List.Forall₂ (DrawsRow widths) body blocks ∧
      text = "\n".intercalate (ruled '┌' '─' '┬' '┐' widths :: top ++
        ruled '╞' '═' '╪' '╡' widths :: [ruled '├' '╌' '┼' '┤' widths].intercalate blocks ++
        [ruled '└' '─' '┴' '┘' widths])

section Lines

theorem splitLines_ne_nil (l : List Char) : splitLines l ≠ [] := by
  cases l with
  | nil => exact List.cons_ne_nil _ _
  | cons c l =>
    rw [splitLines]
    split
    · exact List.cons_ne_nil _ _
    · split <;> exact List.cons_ne_nil _ _

theorem splitLines_cons (c : Char) (l : List Char) : ∃ line lines, splitLines l = line :: lines ∧
    splitLines (c :: l) = if c = '\n' then [] :: line :: lines else (c :: line) :: lines := by
  obtain ⟨line, lines, h⟩ := List.exists_cons_of_ne_nil (splitLines_ne_nil l)
  refine ⟨line, lines, h, ?_⟩
  simp only [splitLines, h]

theorem newline_notMem_of_mem_splitLines {l line : List Char} (h : line ∈ splitLines l) :
    '\n' ∉ line := by
  induction l generalizing line with
  | nil =>
    rw [splitLines, List.mem_singleton] at h
    simp [h]
  | cons c l ih =>
    obtain ⟨first, lines, hrest, hsplit⟩ := splitLines_cons c l
    rw [hrest, List.forall_mem_cons] at ih
    rw [hsplit] at h
    split at h
    · simp only [List.mem_cons] at h
      rcases h with rfl | rfl | h
      · exact List.not_mem_nil
      · exact ih.1
      · exact ih.2 _ h
    · next hc =>
      rw [List.mem_cons] at h
      rcases h with rfl | h
      · simp [ih.1, Ne.symm hc]
      · exact ih.2 _ h

theorem intercalate_splitLines (l : List Char) : ['\n'].intercalate (splitLines l) = l := by
  induction l with
  | nil => rfl
  | cons c l ih =>
    obtain ⟨line, lines, hrest, hsplit⟩ := splitLines_cons c l
    rw [hrest] at ih
    rw [hsplit]
    split
    · next hc => rw [List.intercalate_cons_cons, ih, hc]; rfl
    · cases lines with
      | nil => simpa using ih
      | cons next lines =>
        rw [List.intercalate_cons_cons] at ih ⊢
        rw [← ih]
        rfl

theorem isLines_cellLines (cell : String) : IsLines (cellLines cell) cell where
  ne_nil := by simp [cellLines, splitLines_ne_nil]
  newline_notMem line hline := by
    obtain ⟨l, hl, rfl⟩ := List.mem_map.1 hline
    rw [String.toList_ofList]
    exact newline_notMem_of_mem_splitLines hl
  intercalate := by
    refine String.toList_injective ?_
    have hchars : (cellLines cell).map String.toList = splitLines cell.toList := by
      simp [cellLines, Function.comp_def]
    rw [String.toList_intercalate, hchars]
    exact intercalate_splitLines cell.toList

end Lines

section Columns

theorem max?_eq_foldl {l : List Nat} (h : l ≠ []) : l.max? = some (l.foldl max 0) := by
  cases l with
  | nil => exact absurd rfl h
  | cons n l => rw [List.max?_cons', List.foldl_cons, Nat.zero_max]

theorem le_foldl_max {l : List Nat} {n : Nat} (h : n ∈ l) : n ≤ l.foldl max 0 :=
  (List.max?_eq_some_iff.1 (max?_eq_foldl (List.ne_nil_of_mem h))).2 n h

theorem foldl_max_mem {l : List Nat} (h : l ≠ []) : l.foldl max 0 ∈ l :=
  List.max?_mem (max?_eq_foldl h)

theorem width_le_cellWidth {cell line : String} (h : line ∈ cellLines cell) :
    Text.width line ≤ cellWidth cell :=
  le_foldl_max (List.mem_map_of_mem h)

theorem exists_width_eq (cell : String) :
    ∃ line ∈ cellLines cell, Text.width line = cellWidth cell :=
  List.mem_map.1 (foldl_max_mem (by simp [(isLines_cellLines cell).ne_nil]))

variable {t : Table}

theorem length_widths : t.widths.length = t.header.length := by
  simp [widths]

theorem widths_widths (h : ∀ row ∈ t.rows, row.length = t.header.length) :
    Widths ((t.header :: t.rows).map (List.map cellLines)) t.widths := by
  intro column width hwidth
  have hcolumn : column < t.header.length := by
    rw [← length_widths]
    exact (List.getElem?_eq_some_iff.1 hwidth).1
  have hcell {row : List String} (hrow : row ∈ t.header :: t.rows) :
      (row.map cellLines).getD column [] = cellLines (row.getD column "") := by
    have hlength : column < row.length := by
      rcases List.mem_cons.1 hrow with rfl | hrow
      · exact hcolumn
      · rw [h row hrow]
        exact hcolumn
    simp [List.getD, List.getElem?_map, List.getElem?_eq_getElem hlength]
  have hvalue : width = ((t.header :: t.rows).map fun row ↦
      cellWidth (row.getD column "")).foldl max 0 := by
    rw [widths, List.getElem?_map, List.getElem?_range hcolumn] at hwidth
    exact (Option.some.inj hwidth).symm
  constructor
  · intro cells hcells line hline
    obtain ⟨row, hrow, rfl⟩ := List.mem_map.1 hcells
    rw [hcell hrow] at hline
    rw [hvalue]
    exact Nat.le_trans (width_le_cellWidth hline) (le_foldl_max (List.mem_map_of_mem hrow))
  · obtain ⟨row, hrow, hmax⟩ := List.mem_map.1
      (foldl_max_mem (l := (t.header :: t.rows).map fun row ↦ cellWidth (row.getD column ""))
        (by simp))
    obtain ⟨line, hline, hwide⟩ := exists_width_eq (row.getD column "")
    refine ⟨_, List.mem_map_of_mem hrow, line, ?_, ?_⟩
    · rw [hcell hrow]
      exact hline
    · rw [hwide, hvalue, ← hmax]

end Columns

section Rows

theorem rule_eq_ruled (left fill cross right : Char) (widths : List Nat) :
    rule left fill cross right widths = ruled left fill cross right widths := by
  refine String.toList_injective ?_
  simp [rule, ruled, repeated, String.toList_intercalate, Function.comp_def]

theorem fills_padded {width : Nat} {line : String} (h : Text.width line ≤ width) :
    Fills width line (padded width line) :=
  ⟨width - Text.width line, by omega, rfl⟩

theorem drawsRow_rowLines {widths : List Nat} {row : List String} (hne : row ≠ [])
    (hlength : row.length = widths.length)
    (hfits : ∀ column width, widths[column]? = some width →
      ∀ line ∈ (row.map cellLines).getD column [], Text.width line ≤ width) :
    DrawsRow widths (row.map cellLines) (rowLines widths row) where
  columns := by rw [List.length_map, hlength]
  height := by
    rw [max?_eq_foldl (by simp [hne]), rowLines]
    simp
  lines i line hline := by
    rw [rowLines, List.getElem?_map] at hline
    obtain ⟨j, hj, rfl⟩ := Option.map_eq_some_iff.1 hline
    obtain ⟨_, rfl⟩ := List.getElem?_eq_some_iff.1 hj
    rw [List.getElem_range]
    refine ⟨_, ?_, rfl⟩
    rw [List.forall₂_map_right_iff, List.forall₂_same]
    intro (width, cell) hcolumn
    obtain ⟨column, hzip⟩ := List.mem_iff_getElem?.1 hcolumn
    obtain ⟨hwidth, hcell⟩ := List.getElem?_zip_eq_some.1 hzip
    refine fills_padded ?_
    rw [List.getD]
    cases hline : cell[i]? with
    | none => exact Nat.zero_le width
    | some line =>
      refine hfits column width hwidth line ?_
      rw [List.getD, hcell]
      exact List.mem_of_getElem? hline

/-- A table with a cell in each column of each row is drawn. -/
theorem draws_text {t : Table} (hheader : t.header ≠ [])
    (h : ∀ row ∈ t.rows, row.length = t.header.length) : Draws t.header t.rows t.text := by
  have hlines (row : List String) : List.Forall₂ IsLines (row.map cellLines) row := by
    rw [List.forall₂_map_left_iff, List.forall₂_same]
    exact fun cell _ ↦ isLines_cellLines cell
  have hwidths := widths_widths h
  have hdraws {row : List String} (hrow : row ∈ t.header :: t.rows) :
      DrawsRow t.widths (row.map cellLines) (rowLines t.widths row) := by
    have hlength : row.length = t.header.length := by
      rcases List.mem_cons.1 hrow with rfl | hrow
      · rfl
      · exact h row hrow
    refine drawsRow_rowLines ?_ (by rw [hlength, length_widths]) fun column width hwidth ↦
      (hwidths column width hwidth).1 _ (List.mem_map_of_mem hrow)
    exact List.ne_nil_of_length_pos (hlength ▸ List.length_pos_of_ne_nil hheader)
  refine ⟨t.header.map cellLines, t.rows.map (List.map cellLines), t.widths,
    rowLines t.widths t.header, t.rows.map (rowLines t.widths), hlines t.header, ?_, hwidths,
    hdraws List.mem_cons_self, ?_, ?_⟩
  · rw [List.forall₂_map_left_iff, List.forall₂_same]
    exact fun row _ ↦ hlines row
  · rw [List.forall₂_map_left_iff, List.forall₂_map_right_iff, List.forall₂_same]
    exact fun row hrow ↦ hdraws (List.mem_cons_of_mem _ hrow)
  · simp only [← rule_eq_ruled]
    rfl

example : (Table.mk ["Step", "Tool"] [["1", "make"], ["2", "c\nld"]]).text = "\n".intercalate
    ["┌──────┬──────┐",
      "│ Step ┆ Tool │",
      "╞══════╪══════╡",
      "│ 1    ┆ make │",
      "├╌╌╌╌╌╌┼╌╌╌╌╌╌┤",
      "│ 2    ┆ c    │",
      "│      ┆ ld   │",
      "└──────┴──────┘"] := by decide +kernel

end Rows

end BuildHook.Table
