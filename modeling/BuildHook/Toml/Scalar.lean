import BuildHook.Timestamp
import BuildHook.Toml.Basic

namespace BuildHook.Toml

/-- Digits with single underscores between them; the underscores are left out. -/
def grouped (isDigit : Char → Bool) : List Char → Option (List Char)
  | [] => none
  | [c] => if isDigit c then some [c] else none
  | c :: '_' :: rest => if isDigit c then (grouped isDigit rest).map (c :: ·) else none
  | c :: rest => if isDigit c then (grouped isDigit rest).map (c :: ·) else none

def digitValue (c : Char) : Nat :=
  if c.isDigit then c.toNat - 48 else c.toLower.toNat - 87

def numeral (base : Nat) (digits : List Char) : Nat :=
  digits.foldl (fun n c ↦ n * base + digitValue c) 0

def isHex (c : Char) : Bool := c.isDigit || ('a' ≤ c.toLower && c.toLower ≤ 'f')

def isOctal (c : Char) : Bool := '0' ≤ c && c ≤ '7'

def isBinary (c : Char) : Bool := c = '0' || c = '1'

def decimal (cs : List Char) : Option (List Char) := do
  let digits ← grouped Char.isDigit cs
  guard (digits.length = 1 ∨ digits.head? ≠ some '0')
  return digits

def unsigned : List Char → List Char
  | '+' :: rest => rest
  | '-' :: rest => rest
  | cs => cs

def isNegative (cs : List Char) : Bool := cs.head? = some '-'

def integer? : List Char → Option Int
  | '0' :: 'x' :: rest => (grouped isHex rest).map fun ds ↦ (numeral 16 ds : Int)
  | '0' :: 'o' :: rest => (grouped isOctal rest).map fun ds ↦ (numeral 8 ds : Int)
  | '0' :: 'b' :: rest => (grouped isBinary rest).map fun ds ↦ (numeral 2 ds : Int)
  | cs => (decimal (unsigned cs)).map fun ds ↦
    if isNegative cs then -(numeral 10 ds : Int) else numeral 10 ds

/-- Whether `digits` times that power of ten rounds to more than the largest double. -/
def exceedsDouble (digits : Nat) (exponent : Int) : Bool :=
  let size : Int := (toString digits).length + exponent
  if digits = 0 ∨ size < 309 then false
  else if 309 < size then true
  else (Nat.pow 2 1024 - Nat.pow 2 970) * Nat.pow 10 (-exponent).toNat ≤
    digits * Nat.pow 10 exponent.toNat

def exponent? (cs : List Char) : Option Int :=
  (grouped Char.isDigit (unsigned cs)).map fun ds ↦
    if isNegative cs then -(numeral 10 ds : Int) else numeral 10 ds

/-- Gives whether the number is too large. A float has a fraction, an exponent or both. -/
def float? (cs : List Char) : Option Bool :=
  let body := unsigned cs
  if body = ['i', 'n', 'f'] ∨ body = ['n', 'a', 'n'] then some false
  else do
    let mantissa := body.takeWhile fun c ↦ c ≠ 'e' ∧ c ≠ 'E'
    let power := (body.drop mantissa.length).drop 1
    let whole := mantissa.takeWhile (· ≠ '.')
    let part := (mantissa.drop whole.length).drop 1
    guard (mantissa.length < body.length ∨ whole.length < mantissa.length)
    let wholeDigits ← decimal whole
    let partDigits ← if whole.length < mantissa.length then grouped Char.isDigit part else some []
    let exponent ← if mantissa.length < body.length then exponent? power else some 0
    return exceedsDouble (numeral 10 (wholeDigits ++ partDigits)) (exponent - partDigits.length)

def pair? (low high : Nat) (cs : List Char) : Option (List Char) := do
  let (n, rest) ← Timestamp.digitPair? cs
  guard (low ≤ n ∧ n ≤ high)
  return rest

def date? (cs : List Char) : Option (List Char) := do
  let (century, cs) ← Timestamp.digitPair? cs
  let (year, cs) ← Timestamp.digitPair? cs
  let (month, cs) ← Timestamp.digitPair? (← Timestamp.expect? '-' cs)
  let (day, cs) ← Timestamp.digitPair? (← Timestamp.expect? '-' cs)
  guard (1 ≤ month ∧ month ≤ 12 ∧ 1 ≤ day ∧ day ≤ Timestamp.daysIn (century * 100 + year) month)
  return cs

/-- The seconds may be left out, and only seconds have a fraction. -/
def time? (cs : List Char) : Option (List Char) := do
  let cs ← pair? 0 23 cs
  let cs ← pair? 0 59 (← Timestamp.expect? ':' cs)
  match cs with
  | ':' :: rest => do
    match ← pair? 0 60 rest with
    | '.' :: part => do
      guard ((part.head?.map Char.isDigit).getD false)
      return part.dropWhile Char.isDigit
    | rest => return rest
  | rest => return rest

def offset? : List Char → Option (List Char)
  | 'Z' :: rest => some rest
  | 'z' :: rest => some rest
  | c :: rest => do
    guard (c = '+' ∨ c = '-')
    pair? 0 59 (← Timestamp.expect? ':' (← pair? 0 23 rest))
  | [] => none

/-- A date, a time, or both; only both together can have a zone. -/
def isDatetime (cs : List Char) : Bool :=
  match date? cs with
  | none => time? cs = some []
  | some [] => true
  | some (c :: rest) =>
    (c = 'T' || c = 't' || c = ' ') && match time? rest with
      | none => false
      | some [] => true
      | some rest => offset? rest = some []

def scalar? (cs : List Char) : Option Value :=
  if cs = "true".toList then some (.boolean true)
  else if cs = "false".toList then some (.boolean false)
  else if isDatetime cs then some .datetime
  else match integer? cs with
    | some n => some (.integer n)
    | none => (float? cs).map .float

def isDelimiter (c : Char) : Bool :=
  c = ' ' || c = '\t' || c = '\n' || c = '\r' || c = ',' || c = '#' || c = '=' ||
    c = '[' || c = ']' || c = '\x7b' || c = '\x7d' || c = '"' || c = '\x27'

/-- A word; a date takes a time behind one blank along. -/
def word (cs : List Char) : List Char × List Char :=
  let first := cs.takeWhile fun c ↦ !isDelimiter c
  match cs.drop first.length with
  | ' ' :: c :: rest =>
    if c.isDigit ∧ date? first = some [] then
      let second := (c :: rest).takeWhile fun c ↦ !isDelimiter c
      (first ++ ' ' :: second, (c :: rest).drop second.length)
    else (first, ' ' :: c :: rest)
  | rest => (first, rest)

def scalar : Reader Value := fun cs ↦ do
  let (w, rest) := word cs
  return (← scalar? w, rest)

end BuildHook.Toml
