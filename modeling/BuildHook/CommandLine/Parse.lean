import BuildHook.CommandLine.Basic

namespace BuildHook.CommandLine

inductive Word where
  | dashes
  | long (name : OsText) (value : Option OsText)
  | short (letters : OsText)
  | plain
  deriving DecidableEq

abbrev Side := Option Verb

structure Reading where
  options : Options
  /-- An option that wants a path, with the path if it has come. -/
  waiting : Option (Option OsText)
  deriving DecidableEq

def dash : UInt8 := 0x2D

def ofOctets (l : List UInt8) : OsText := ⟨⟨l.toArray⟩⟩

def Word.of (w : OsText) : Word :=
  match w.octets.data.toList with
  | [a, b] =>
    if a = dash ∧ b = dash then dashes
    else if a = dash then short (ofOctets [b]) else plain
  | a :: b :: rest =>
    if a = dash ∧ b = dash then
      let name := rest.takeWhile (· ≠ 0x3D)
      match rest.drop name.length with
      | [] => long (ofOctets name) none
      | _ :: value => long (ofOctets name) (some (ofOctets value))
    else if a = dash then short (ofOctets (b :: rest)) else plain
  | _ => plain

def Side.ofLong? (side : Side) (name : OsText) : Option Switch := do
  let name ← name.toString?
  (Switch.available side).find? fun s ↦ s.name = name

def Side.ofLetter? (side : Side) (c : Char) : Option Switch :=
  (Switch.available side).find? fun s ↦ s.letter = some c

def Side.page : Side → Page
  | none => .program
  | some v => .verb v

def pageOf? (w : OsText) : Option Page := do
  let s ← w.toString?
  if s = "help" then some .help else (Verb.ofName? s).map .verb

def Side.stray (side : Side) (w : OsText) : Misuse :=
  match side with
  | none => .unknownVerb w.display
  | some _ => .unknownWord w.display

namespace Reading

def start : Reading := ⟨.unset, none⟩

def misuse {α : Type} (m : Misuse) : Except Deviation α := .error (.misuse m)

def setPath (r : Reading) (path : OsText) : Except Deviation Reading :=
  if r.options.config.isSome then misuse (.repeated .config)
  else if path.isEmpty then misuse .noValue
  else .ok { r with options := { r.options with config := some path } }

def settle (r : Reading) : Except Deviation Reading :=
  match r.waiting with
  | none => .ok r
  | some none => misuse .noValue
  | some (some path) => { r with waiting := none }.setPath path

def turnOn (side : Side) (r : Reading) (s : Switch) : Except Deviation Reading := do
  let r ← r.settle
  match s with
  | .help => .error (.help side.page)
  | .version => .error .version
  | .json =>
    if r.options.json then misuse (.repeated .json)
    else .ok { r with options := { r.options with json := true } }
  | .debug =>
    if r.options.debug then misuse (.repeated .debug)
    else .ok { r with options := { r.options with debug := true } }
  | .config => .ok { r with waiting := some none }

def assign (r : Reading) (value : OsText) : Switch → Except Deviation Reading
  | .config => do (← r.settle).setPath value
  | s => misuse (.unwantedValue value.display s)

def long (side : Side) (r : Reading) (name : OsText) (value : Option OsText) :
    Except Deviation Reading :=
  match side.ofLong? name, value with
  | none, _ => misuse (.unknownWord ("--" ++ name.display))
  | some s, none => r.turnOn side s
  | some s, some value => r.assign value s

/-- Letters after one dash, each an option of its own. What is no text is shown to its end. -/
def letters (side : Side) (isText : Bool) (r : Reading) : List Char → Except Deviation Reading
  | [] => .ok r
  | c :: rest =>
    match side.ofLetter? c with
    | none =>
      let word := if isText ∨ c ≠ '\uFFFD' then c.toString else String.ofList (c :: rest)
      misuse (.unknownWord ("-" ++ word))
    | some s => (r.turnOn side s).bind fun r ↦ r.letters side isText rest

def take (side : Side) (r : Reading) (w : OsText) : Except Deviation Reading :=
  match Word.of w with
  | .long name value => r.long side name value
  | .short l => r.letters side l.toString?.isSome l.display.toList
  | _ =>
    if r.waiting = some none then .ok { r with waiting := some (some w) }
    else misuse (side.stray w)

/-- Takes what follows two dashes: nothing may, and a verb is no verb there. -/
def close (side : Side) (r : Reading) : List OsText → Except Deviation Reading
  | [] => .ok r
  | w :: _ =>
    misuse (if (pageOf? w).isSome then .unknownWord w.display else side.stray w)

end Reading

def helpOn : List OsText → Deviation
  | [] => .help .program
  | w :: rest =>
    match pageOf? w, rest with
    | none, _ => .misuse (.unknownVerb w.display)
    | some page, [] => .help page
    | some _, extra :: _ => .misuse (.unknownVerb extra.display)

def readBefore (r : Reading) :
    List OsText → Except Deviation (Reading × Option (Verb × List OsText))
  | [] => .ok (r, none)
  | w :: rest =>
    match if r.waiting = some none then none else pageOf? w with
    | some (.verb v) => .ok (r, some (v, rest))
    | some _ => .error (helpOn rest)
    | none =>
      if Word.of w = .dashes then (r.close none rest).map fun r ↦ (r, none)
      else (r.take none w).bind fun r ↦ readBefore r rest

def readAfter (v : Verb) (r : Reading) : List OsText → Except Deviation Reading
  | [] => .ok r
  | w :: rest =>
    if Word.of w = .dashes then r.close (some v) rest
    else (r.take (some v) w).bind fun r ↦ readAfter v r rest

/-- Reads the arguments of the program. What follows the verb is settled first. -/
def parse (args : List OsText) : Except Deviation Request := do
  match ← readBefore .start args with
  | (before, none) =>
    let before ← before.settle
    .error (.misuse (if before.options = .unset then .nothing else .noVerb))
  | (before, some (v, rest)) =>
    let after ← (← readAfter v .start rest).settle
    let before ← before.settle
    return ⟨v, before.options.join after.options⟩

end BuildHook.CommandLine
