import BuildHook.Log.Record
import BuildHook.Text.Basic

namespace BuildHook

/-- Targets that begin with `target` are heard from level `least` on, or not at all. -/
structure Directive where
  target : String
  least : Option Level
  /-- Whether it holds only within a span; no record here is written within one. -/
  withinSpan : Bool
  deriving DecidableEq, Inhabited

abbrev LogFilter := List Directive

namespace Directive

def number? (s : List Char) : Option Nat :=
  let digits := match s with
    | '+' :: rest => rest
    | l => l
  if digits.isEmpty ∨ digits.any fun c ↦ !c.isDigit then none
  else some (digits.foldl (fun n c ↦ 10 * n + (c.toNat - '0'.toNat)) 0)

def levelOfNumber? : Nat → Option (Option Level)
  | 0 => some none
  | 1 => some (some .error)
  | 2 => some (some .warn)
  | 3 => some (some .info)
  | 4 => some (some .debug)
  | 5 => some (some .trace)
  | _ => none

/-- A level in words of any case or as a number; the outer option tells whether it is one. -/
def level? (s : List Char) : Option (Option Level) :=
  match number? s with
  | some n => levelOfNumber? n
  | none =>
    let word := String.ofList (s.map Char.toLower)
    if word = "off" then some none else (Level.ofName? word).map some

/-- The level after an equals sign. If there is none, all levels are meant. -/
def least? (s : List Char) : Option (Option Level) :=
  if s.isEmpty then some (some .trace) else level? s

def canStart (c : Char) : Bool := c.isAlphanum || c = '_' || c = ':' || c = '-' || 0x80 ≤ c.toNat

/-- A level, a target, or a target with its level; a target may have a span in brackets after it.
Blanks in front spoil a level and belong to a target. -/
def parse? (s : List Char) : Option Directive := do
  let first ← (s.dropWhile Text.isSpace).head?
  guard (canStart first || first = '[')
  let target := s.takeWhile fun c ↦ c ≠ '=' && c ≠ '['
  match s.drop target.length with
  | [] => match level? target with
    | some least => return ⟨"", least, false⟩
    | none => return ⟨String.ofList target, some .trace, false⟩
  | '=' :: level =>
    guard (s.head? = some first)
    return ⟨String.ofList target, ← least? level, false⟩
  | span => match span.dropWhile (· ≠ ']') with
    | [_] => return ⟨String.ofList target, some .trace, true⟩
    | _ :: '=' :: level => return ⟨String.ofList target, ← least? level, true⟩
    | _ => none

def all (least : Level) : Directive := ⟨"", some least, false⟩

def covers (d : Directive) (target : String) : Bool :=
  !d.withinSpan && d.target.toList.isPrefixOf target.toList

end Directive

namespace LogFilter

def splitCommas : List Char → List (List Char)
  | [] => [[]]
  | c :: rest =>
    match splitCommas rest with
    | [] => [[c]]
    | part :: parts => if c = ',' then [] :: part :: parts else (c :: part) :: parts

/-- Directives with commas between them; one that cannot be read spoils them all. A filter without
a directive lets errors through. -/
def parse? (s : String) : Option LogFilter := do
  let parts := (splitCommas s.toList).filter fun p ↦ !p.isEmpty
  let directives ← parts.mapM Directive.parse?
  return if directives.isEmpty then [.all .error] else directives

/-- The directive with the longest target among those that cover a target; of two for the same
target the later. -/
def decisive (f : LogFilter) (target : String) : Option Directive :=
  (f.filter fun d ↦ d.covers target).foldl (fun best d ↦
    match best with
    | none => some d
    | some b => if d.target.length < b.target.length then some b else some d) none

def enables (f : LogFilter) (r : LogRecord) : Bool :=
  match f.decisive r.component.target with
  | some ⟨_, some least, _⟩ => least ≤ r.level
  | _ => false

end LogFilter

end BuildHook
