import BuildHook.Text.Width

namespace BuildHook

structure Table where
  header : List String
  rows : List (List String)
  deriving DecidableEq, Inhabited

namespace Table

def splitLines : List Char → List (List Char)
  | [] => [[]]
  | c :: rest =>
    match splitLines rest with
    | [] => [[c]]
    | line :: lines => if c = '\n' then [] :: line :: lines else (c :: line) :: lines

def cellLines (cell : String) : List String := (splitLines cell.toList).map String.ofList

def cellWidth (cell : String) : Nat := ((cellLines cell).map Text.width).foldl max 0

def widths (t : Table) : List Nat :=
  (List.range t.header.length).map fun column ↦
    ((t.header :: t.rows).map fun row ↦ cellWidth (row.getD column "")).foldl max 0

def repeated (c : Char) (n : Nat) : String := String.ofList (List.replicate n c)

def rule (left fill cross right : Char) (widths : List Nat) : String :=
  left.toString ++ cross.toString.intercalate (widths.map fun w ↦ repeated fill (w + 2)) ++
    right.toString

def padded (width : Nat) (line : String) : String :=
  " " ++ line ++ repeated ' ' (width - Text.width line) ++ " "

/-- A row has as many lines as its highest cell. -/
def rowLines (widths : List Nat) (row : List String) : List String :=
  let cells := row.map cellLines
  let height := (cells.map List.length).foldl max 0
  (List.range height).map fun i ↦
    "│" ++ "┆".intercalate ((widths.zip cells).map fun c ↦ padded c.1 (c.2.getD i "")) ++ "│"

def text (t : Table) : String :=
  let widths := t.widths
  let body := (t.rows.map (rowLines widths)).intersperse [rule '├' '╌' '┼' '┤' widths]
  "\n".intercalate <| rule '┌' '─' '┬' '┐' widths :: rowLines widths t.header ++
    rule '╞' '═' '╪' '╡' widths :: body.flatten ++ [rule '└' '─' '┴' '┘' widths]

end Table

end BuildHook
