import BuildHook.Text.Basic

namespace BuildHook

structure Timestamp where
  /-- Days since the start of 1970. -/
  day : Int
  /-- Seconds since the start of the day. -/
  second : Nat
  /-- A full second or more stands for a leap second. -/
  nano : Nat
  deriving DecidableEq, Inhabited

namespace Timestamp

/-- Years start in March for the count, so that the leap day is the last. -/
def dayOf (year month day : Int) : Int :=
  let y := if month ≤ 2 then year - 1 else year
  let m := if month ≤ 2 then month + 9 else month - 3
  let era := y.fdiv 400
  let yearOfEra := y - era * 400
  era * 146097 + yearOfEra * 365 + yearOfEra / 4 - yearOfEra / 100 +
    (153 * m + 2) / 5 + day - 1 - 719468

def isLeap (year : Int) : Bool := year % 4 = 0 ∧ (year % 100 ≠ 0 ∨ year % 400 = 0)

def daysIn (year month : Int) : Int :=
  if month = 2 then if isLeap year then 29 else 28
  else if month = 4 ∨ month = 6 ∨ month = 9 ∨ month = 11 then 30
  else 31

def date (day : Int) : Int × Int × Int :=
  let z := day + 719468
  let era := z.fdiv 146097
  let d := z - era * 146097
  let yearOfEra := (d - d / 1460 + d / 36524 - d / 146096) / 365
  let dayOfYear := d - (365 * yearOfEra + yearOfEra / 4 - yearOfEra / 100)
  let m := (5 * dayOfYear + 2) / 153
  let month := if m < 10 then m + 3 else m - 9
  (yearOfEra + era * 400 + (if month ≤ 2 then 1 else 0), month, dayOfYear - (153 * m + 2) / 5 + 1)

def padded (width n : Nat) : String :=
  let digits := toString n
  String.ofList (List.replicate (width - digits.length) '0') ++ digits

/-- Four digits; a year that has more or lies before the year zero has a sign. -/
def yearText (year : Int) : String :=
  if year < 0 then "-" ++ padded 4 year.natAbs
  else if 9999 < year then "+" ++ toString year
  else padded 4 year.natAbs

/-- As few of three, six or nine digits as are exact. -/
def fraction (nano : Nat) : String :=
  if nano = 0 then ""
  else if nano % 1000000 = 0 then "." ++ padded 3 (nano / 1000000)
  else if nano % 1000 = 0 then "." ++ padded 6 (nano / 1000)
  else "." ++ padded 9 nano

def text (t : Timestamp) : String :=
  let (year, month, day) := date t.day
  let leap := if 1000000000 ≤ t.nano then 1 else 0
  yearText year ++ "-" ++ padded 2 month.natAbs ++ "-" ++ padded 2 day.natAbs ++ "T" ++
    padded 2 (t.second / 3600) ++ ":" ++ padded 2 (t.second / 60 % 60) ++ ":" ++
    padded 2 (t.second % 60 + leap) ++ fraction (t.nano - leap * 1000000000) ++ "Z"

def skipSpace (cs : List Char) : List Char := cs.dropWhile Text.isSpace

def value (digits : List Char) : Nat :=
  digits.foldl (fun n c ↦ n * 10 + (c.toNat - 48)) 0

/-- At most `limit` digits, but one at least. -/
def number? (limit : Nat) (cs : List Char) : Option (Nat × List Char) :=
  let digits := (cs.take limit).takeWhile Char.isDigit
  if digits.isEmpty then none else some (value digits, cs.drop digits.length)

def field? (limit low high : Nat) (cs : List Char) : Option (Nat × List Char) := do
  let (n, rest) ← number? limit (skipSpace cs)
  guard (low ≤ n ∧ n ≤ high)
  return (n, rest)

def expect? (c : Char) : List Char → Option (List Char)
  | d :: rest => if c = d then some rest else none
  | [] => none

/-- A year with a sign may have any number of digits. -/
def year? (cs : List Char) : Option (Int × List Char) :=
  match skipSpace cs with
  | '-' :: rest => (number? rest.length rest).map fun p ↦ (-(p.1 : Int), p.2)
  | '+' :: rest => (number? rest.length rest).map fun p ↦ ((p.1 : Int), p.2)
  | rest => (number? 4 rest).map fun p ↦ ((p.1 : Int), p.2)

/-- A fraction of a second; digits behind the ninth do not count. -/
def fraction? : List Char → Option (Nat × List Char)
  | '.' :: rest => do
    let digits := (rest.take 9).takeWhile Char.isDigit
    guard !digits.isEmpty
    return (value digits * Nat.pow 10 (9 - digits.length), rest.dropWhile Char.isDigit)
  | rest => some (0, rest)

def digitPair? : List Char → Option (Nat × List Char)
  | a :: b :: rest =>
    if a.isDigit ∧ b.isDigit then some (value [a, b], rest) else none
  | _ => none

/-- Minutes east of Greenwich. -/
def zone? (cs : List Char) : Option (Int × List Char) :=
  match skipSpace cs with
  | 'Z' :: rest => some (0, rest)
  | 'z' :: rest => some (0, rest)
  | a :: b :: c :: rest =>
    if [a, b, c].map Char.toUpper = ['U', 'T', 'C'] then some (0, rest)
    else if a = '+' then (offset (b :: c :: rest)).map fun p ↦ ((p.1 : Int), p.2)
    else if a = '-' ∨ a = '\u2212' then (offset (b :: c :: rest)).map fun p ↦ (-(p.1 : Int), p.2)
    else none
  | _ => none
where
  offset (cs : List Char) : Option (Nat × List Char) := do
    let (hours, cs) ← digitPair? cs
    let (minutes, cs) ← digitPair? (cs.dropWhile fun c ↦ c = ':' || Text.isSpace c)
    guard (minutes < 60 ∧ hours < 24)
    return (hours * 60 + minutes, cs)

def inEra (day : Int) : Bool :=
  dayOf (-262143) 1 1 ≤ day ∧ day ≤ dayOf 262142 12 31

def parse? (s : String) : Option Timestamp := do
  let (year, cs) ← year? s.toList
  guard (-262143 ≤ year ∧ year ≤ 262142)
  let (month, cs) ← field? 2 1 12 (← expect? '-' (skipSpace cs))
  let (day, cs) ← field? 2 1 31 (← expect? '-' (skipSpace cs))
  guard (day ≤ daysIn year month)
  let cs ← match cs with
    | 'T' :: rest => some rest
    | 't' :: rest => some rest
    | ' ' :: rest => some rest
    | _ => none
  let (hour, cs) ← field? 2 0 23 cs
  let (minute, cs) ← field? 2 0 59 (← expect? ':' (skipSpace cs))
  let (second, cs) ← field? 2 0 60 (← expect? ':' (skipSpace cs))
  let (nano, cs) ← fraction? cs
  let (east, cs) ← zone? cs
  guard (skipSpace cs).isEmpty
  let leap := second = 60
  let clock : Int := hour * 3600 + minute * 60 + (if leap then 59 else second) - east * 60
  let shifted := dayOf year month day + clock.fdiv 86400
  guard (inEra shifted)
  return ⟨shifted, (clock.fmod 86400).toNat, if leap then nano + 1000000000 else nano⟩

end Timestamp

end BuildHook
