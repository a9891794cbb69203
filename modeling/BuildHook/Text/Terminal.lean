namespace BuildHook.Text

inductive EscapeMode where
  | ground
  | escape
  | intermediate
  /-- A sequence with parameters, up to its final character. -/
  | control
  /-- A command with a text, up to a bell. -/
  | command
  /-- A text that only another escape ends. -/
  | passage
  deriving DecidableEq, Inhabited

namespace EscapeMode

def isWhite (c : Char) : Bool := c = '\t' || c = '\n' || c = '\x0c' || c = '\r'

def isFinal (low : Nat) (c : Char) : Bool := low ≤ c.toNat && c.toNat ≤ 0x7E

def opened (c : Char) : EscapeMode :=
  if c = '[' then control
  else if c = ']' then command
  else if c = 'P' ∨ c = 'X' ∨ c = '^' ∨ c = '_' then passage
  else if isFinal 0x30 c then ground
  else if isFinal 0x20 c then intermediate
  else escape

def next (mode : EscapeMode) (c : Char) : Bool × EscapeMode :=
  if c = '\x1b' then (false, escape)
  else if c = '\x18' ∨ c = '\x1a' then (false, ground)
  else match mode with
    | ground => (isWhite c || (0x20 ≤ c.toNat && c ≠ '\x7f'), ground)
    | escape => if isWhite c then (true, ground) else (false, opened c)
    | intermediate =>
      if isWhite c then (true, ground)
      else (false, if isFinal 0x30 c then ground else intermediate)
    | control =>
      if isWhite c then (true, ground)
      else (false, if isFinal 0x40 c then ground else control)
    | command => (false, if c = '\x07' then ground else command)
    | passage => (false, passage)

def shown : EscapeMode → List Char → List Char
  | _, [] => []
  | mode, c :: rest =>
    let (visible, mode) := mode.next c
    if visible then c :: shown mode rest else shown mode rest

end EscapeMode

def withoutControls (s : String) : String := String.ofList (EscapeMode.ground.shown s.toList)

end BuildHook.Text
