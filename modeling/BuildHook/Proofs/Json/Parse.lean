import BuildHook.Json.Basic

namespace BuildHook.Json

/-- Pieces of written JSON. What stands between quotes is kept as it is written. -/
inductive Token where
  | mark (c : Char)
  | word (l : List Char)
  | text (l : List Char)

/-- The piece that is being read, its last character first. -/
inductive Piece where
  | none
  | word (l : List Char)
  | text (l : List Char)
  | escape (l : List Char)

def isBlank (c : Char) : Bool := c = ' ' || c = '\n' || c = '\t' || c = '\r'

def isMark (c : Char) : Bool :=
  c = '[' || c = ']' || c = '\x7b' || c = '\x7d' || c = ',' || c = ':'

def isBreak (c : Char) : Bool := isBlank c || isMark c || c = '"'

namespace Piece

def start (c : Char) : List Token × Piece :=
  if c = '"' then ([], text [])
  else if isMark c then ([.mark c], none)
  else if isBlank c then ([], none)
  else ([], word [c])

def next : Piece → Char → List Token × Piece
  | none, c => start c
  | word l, c =>
    if isBreak c then (.word l.reverse :: (start c).1, (start c).2) else ([], word (c :: l))
  | text l, c =>
    if c = '"' then ([.text l.reverse], none)
    else if c = '\\' then ([], escape (c :: l))
    else ([], text (c :: l))
  | escape l, c => ([], text (c :: l))

end Piece

def hexDigit? (c : Char) : Option Nat :=
  if c.isDigit then some (c.toNat - '0'.toNat)
  else if 'a' ≤ c ∧ c ≤ 'f' then some (c.toNat - 'a'.toNat + 10)
  else if 'A' ≤ c ∧ c ≤ 'F' then some (c.toNat - 'A'.toNat + 10)
  else none

def unit? (a b c d : Char) : Option Nat := do
  return 0x1000 * (← hexDigit? a) + 0x100 * (← hexDigit? b) + 0x10 * (← hexDigit? c) +
    (← hexDigit? d)

def named? : Char → Option Char
  | '"' => some '"'
  | '\\' => some '\\'
  | '/' => some '/'
  | 'b' => some '\x08'
  | 'f' => some '\x0c'
  | 'n' => some '\n'
  | 'r' => some '\r'
  | 't' => some '\t'
  | _ => none

/-- The codes that are meant between quotes. A character beyond the first plane may come as two. -/
def codes? : List Char → Option (List Nat)
  | [] => some []
  | '\\' :: 'u' :: a :: b :: c :: d :: rest =>
    (unit? a b c d).bind fun unit ↦ (codes? rest).map (unit :: ·)
  | '\\' :: c :: rest => (named? c).bind fun found ↦ (codes? rest).map (found.toNat :: ·)
  | c :: rest => if c.toNat < 0x20 then none else (codes? rest).map (c.toNat :: ·)

def isHigh (code : Nat) : Bool := 0xD800 ≤ code && code < 0xDC00

def isLow (code : Nat) : Bool := 0xDC00 ≤ code && code < 0xE000

/-- Puts a code in front of a text that may begin with the second half of a character. -/
def join? (code : Nat) : Option Nat × List Char → Option (Option Nat × List Char)
  | (none, s) =>
    if isLow code then some (some code, s)
    else if isHigh code then none
    else some (none, Char.ofNat code :: s)
  | (some low, s) =>
    if isHigh code then
      some (none, Char.ofNat (0x10000 + 0x400 * (code - 0xD800) + (low - 0xDC00)) :: s)
    else none

def unescape? (l : List Char) : Option (List Char) := do
  match ← (← codes? l).foldrM join? (none, []) with
  | (none, s) => some s
  | (some _, _) => none

def isNumeral (l : List Char) : Bool := !l.isEmpty && l.all Char.isDigit

def natural? (l : List Char) : Option Nat :=
  if isNumeral l && (l.head? ≠ some '0' || l.length = 1) then some (Nat.ofDigitChars 10 l 0)
  else none

def integer? : List Char → Option Int
  | '-' :: l => (natural? l).map fun n ↦ -(n : Int)
  | l => (natural? l).map Int.ofNat

def isExponent : List Char → Bool
  | [] => true
  | 'e' :: '+' :: l | 'e' :: '-' :: l | 'E' :: '+' :: l | 'E' :: '-' :: l => isNumeral l
  | 'e' :: l | 'E' :: l => isNumeral l
  | _ => false

def isFraction : List Char → Bool
  | '.' :: l => isNumeral (l.takeWhile Char.isDigit) && isExponent (l.dropWhile Char.isDigit)
  | l => isExponent l

def number? (l : List Char) : Option Json :=
  match integer? l with
  | some n => some (.int n)
  | none =>
    let isWhole := fun c : Char ↦ c = '-' || c.isDigit
    if (integer? (l.takeWhile isWhole)).isSome && isFraction (l.dropWhile isWhole) then
      some (.real (String.ofList l))
    else none

def word? (l : List Char) : Option Json :=
  if l = ['n', 'u', 'l', 'l'] then some .null
  else if l = ['t', 'r', 'u', 'e'] then some (.bool true)
  else if l = ['f', 'a', 'l', 's', 'e'] then some (.bool false)
  else number? l

inductive Frame where
  | items (before : List Json)
  | members (before : List (String × Json)) (name : String)

/-- What has to come. Behind an opening bracket the closing one may come at once. -/
inductive Awaited where
  | value (first : Bool)
  | name (first : Bool) (before : List (String × Json))
  | colon (before : List (String × Json)) (name : String)
  | more (v : Json)

/-- How far a text is read: the open brackets, the innermost first, and what has to come. -/
abbrev Progress := List Frame × Awaited

namespace Progress

def accept : Progress → Token → Option Progress
  | (frames, .value _), .word l => (word? l).map fun v ↦ (frames, .more v)
  | (frames, .value _), .text l =>
    (unescape? l).map fun s ↦ (frames, .more (.str (String.ofList s)))
  | (frames, .value _), .mark '[' => some (.items [] :: frames, .value true)
  | (frames, .value _), .mark '\x7b' => some (frames, .name true [])
  | (.items _ :: frames, .value true), .mark ']' => some (frames, .more (.arr []))
  | (frames, .name _ before), .text l =>
    (unescape? l).map fun s ↦ (frames, .colon before (String.ofList s))
  | (frames, .name true _), .mark '\x7d' => some (frames, .more (.obj []))
  | (frames, .colon before name), .mark ':' => some (.members before name :: frames, .value false)
  | (.items before :: frames, .more v), .mark ',' =>
    some (.items (v :: before) :: frames, .value false)
  | (.items before :: frames, .more v), .mark ']' =>
    some (frames, .more (.arr (v :: before).reverse))
  | (.members before name :: frames, .more v), .mark ',' =>
    some (frames, .name false ((name, v) :: before))
  | (.members before name :: frames, .more v), .mark '\x7d' =>
    some (frames, .more (.obj ((name, v) :: before).reverse))
  | _, _ => none

end Progress

def read? : Piece → Progress → List Char → Option (Piece × Progress)
  | piece, progress, [] => some (piece, progress)
  | piece, progress, c :: rest => do
    let progress ← (piece.next c).1.foldlM Progress.accept progress
    read? (piece.next c).2 progress rest

/-- The value of a text, which must hold nothing else but blanks. -/
def ofText? (text : String) : Option Json :=
  -- a blank at the end does not change the value, but a word ends there
  match read? .none ([], .value false) (text.toList ++ [' ']) with
  | some (.none, [], .more v) => some v
  | _ => none

end BuildHook.Json
