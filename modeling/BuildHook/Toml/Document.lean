import BuildHook.Toml.Text

namespace BuildHook.Toml

inductive Opening where
  /-- Named by its own header. -/
  | header
  /-- Implied by the header of a table inside it. -/
  | implied
  /-- Named by a dotted key. -/
  | dotted
  deriving DecidableEq

inductive Node where
  /-- A value that nothing can be added to. -/
  | closed (v : Value)
  | table (opening : Opening) (entries : List (String × Node))
  /-- Tables under one name; only the last can grow. -/
  | tables (done : List (List (String × Node))) (last : List (String × Node))

abbrev Entries := List (String × Node)

/-- Puts a node in the place of the one that has its name, or behind the others. -/
def Entries.set (name : String) (node : Node) : Entries → Entries
  | [] => [(name, node)]
  | (key, old) :: rest =>
    if key = name then (name, node) :: rest else (key, old) :: Entries.set name node rest

def within (step : Entries → Option Entries) : Option Node → Option Node
  | none => (step []).map (.table .implied)
  | some (.table opening inner) => (step inner).map (.table opening)
  | some (.tables done last) => (step last).map (.tables done)
  | some (.closed _) => none

/-- The table that a header opens. Only a table that another header has implied can be there. -/
def openTable : Option Node → Option Node
  | none => some (.table .header [])
  | some (.table .implied inner) => some (.table .header inner)
  | _ => none

def addTable : Option Node → Option Node
  | none => some (.tables [] [])
  | some (.tables done last) => some (.tables (done ++ [last]) [])
  | _ => none

def atPath (change : Option Node → Option Node) : List String → Entries → Option Entries
  | [], _ => none
  | [name], entries => (change (entries.lookup name)).map fun node ↦ entries.set name node
  | name :: rest, entries =>
    (within (atPath change rest) (entries.lookup name)).map fun node ↦ entries.set name node

/-- Puts a value under a dotted key into the entries of a table that `direct` tells whether it may
take a value under this key. -/
def putDotted (v : Value) : List String → Bool → Entries → Option Entries
  | [], _, _ => none
  | [name], direct, entries =>
    if direct ∧ (entries.lookup name).isNone then some (entries.set name (.closed v)) else none
  | name :: rest, _, entries =>
    let node : Option Node := match entries.lookup name with
      | none => (putDotted v rest true []).map (.table .dotted)
      | some (.table .dotted inner) => (putDotted v rest true inner).map (.table .dotted)
      | some (.table .implied inner) => (putDotted v rest false inner).map (.table .implied)
      | some (.tables done last) => (putDotted v rest false last).map (.tables done)
      | some _ => none
    node.map fun node ↦ entries.set name node

def putUnder (v : Value) (key : List String) : List String → Entries → Option Entries
  | [], entries => putDotted v key true entries
  | name :: rest, entries =>
    (within (putUnder v key rest) (entries.lookup name)).map fun node ↦ entries.set name node

mutual

def Node.value : Node → Value
  | .closed v => v
  | .table _ entries => .table (nodeValues entries)
  | .tables done last => .array (tableValues done ++ [.table (nodeValues last)])

def nodeValues : List (String × Node) → List (String × Value)
  | [] => []
  | (name, node) :: rest => (name, node.value) :: nodeValues rest

def tableValues : List (List (String × Node)) → List Value
  | [] => []
  | entries :: rest => .table (nodeValues entries) :: tableValues rest

end

def entry (value : Reader Value) : Reader (List String × Value) := fun cs ↦ do
  let (k, rest) ← key cs
  let (v, rest) ← value (skipSpace (← Timestamp.expect? '=' (skipSpace rest)))
  return ((k, v), rest)

/-- Items up to the closing bracket, with commas between them and perhaps one at the end. -/
def items {α : Type} (item : Reader α) (close : Char) : Nat → Reader (List α)
  | 0, _ => none
  | n + 1, cs =>
    match skipAll cs with
    | [] => none
    | c :: rest =>
      if c = close then some ([], rest)
      else do
        let (a, rest) ← item (c :: rest)
        match skipAll rest with
        | ',' :: rest => do
          let (later, rest) ← items item close n rest
          return (a :: later, rest)
        | d :: rest => if d = close then some ([a], rest) else none
        | [] => none

def inlineTable (entries : List (List String × Value)) : Option Value :=
  (entries.foldlM (fun table e ↦ putDotted e.2 e.1 true table) ([] : Entries)).map fun table ↦
    .table (nodeValues table)

def maxDepth : Nat := 80

/-- A value with at most `depth` brackets around any part of it. -/
def value : Nat → Reader Value
  | depth, cs =>
    match cs with
    | '"' :: _ => (string cs).map fun p ↦ (.string p.1, p.2)
    | '\x27' :: _ => (string cs).map fun p ↦ (.string p.1, p.2)
    | '[' :: rest =>
      match depth with
      | 0 => none
      | depth + 1 =>
        (items (value depth) ']' (rest.length + 1) rest).map fun p ↦ (.array p.1, p.2)
    | '\x7b' :: rest =>
      match depth with
      | 0 => none
      | depth + 1 => do
        let (entries, rest) ← items (entry (value depth)) '\x7d' (rest.length + 1) rest
        return (← inlineTable entries, rest)
    | cs => scalar cs

inductive Line where
  | header (path : List String)
  | tables (path : List String)
  | entry (path : List String) (v : Value)

def line (cs : List Char) : Option (Line × List Char) :=
  match cs with
  | '[' :: '[' :: rest => do
    let (path, rest) ← key rest
    let rest ← Timestamp.expect? ']' (← Timestamp.expect? ']' (skipSpace rest))
    return (.tables path, ← endLine rest)
  | '[' :: rest => do
    let (path, rest) ← key rest
    return (.header path, ← endLine (← Timestamp.expect? ']' (skipSpace rest)))
  | cs => do
    let (e, rest) ← entry (value maxDepth) cs
    return (.entry e.1 e.2, ← endLine rest)

def lines : Nat → List Char → Option (List Line)
  | 0, _ => none
  | n + 1, cs =>
    match skipAll cs with
    | [] => some []
    | '#' :: rest => if (rest.dropWhile isPlain).isEmpty then some [] else none
    | cs => do
      let (l, rest) ← line cs
      return l :: (← lines n rest)

structure Draft where
  entries : Entries
  current : List String

def Draft.add (d : Draft) : Line → Option Draft
  | .header path => (atPath openTable path d.entries).map fun entries ↦ ⟨entries, path⟩
  | .tables path => (atPath addTable path d.entries).map fun entries ↦ ⟨entries, path⟩
  | .entry path v => (putUnder v path d.current d.entries).map fun entries ↦ ⟨entries, d.current⟩

/-- Reads a document; a byte order mark in front of it does not count. -/
def parse? (s : String) : Option Value := do
  let cs := match s.toList with
    | '\uFEFF' :: rest => rest
    | cs => cs
  let d ← (← lines (cs.length + 1) cs).foldlM Draft.add ⟨[], []⟩
  return .table (nodeValues d.entries)

end BuildHook.Toml
