namespace BuildHook

structure OsText where
  octets : ByteArray

namespace OsText

instance : Inhabited OsText := ⟨⟨.empty⟩⟩

instance : DecidableEq OsText := fun ⟨⟨⟨a⟩⟩⟩ ⟨⟨⟨b⟩⟩⟩ ↦
  if h : a = b then isTrue (by rw [h]) else isFalse (fun e ↦ by cases e; exact h rfl)

def ofString (s : String) : OsText := ⟨s.toUTF8⟩

def toString? (t : OsText) : Option String := String.fromUTF8? t.octets

def isEmpty (t : OsText) : Bool := t.octets.size == 0

def append (s t : OsText) : OsText := ⟨s.octets ++ t.octets⟩

instance : Append OsText := ⟨append⟩

theorem toString?_ofString (s : String) : (ofString s).toString? = some s := by
  unfold toString? ofString String.fromUTF8?
  rw [String.toUTF8_eq_toByteArray, dif_pos s.isValidUTF8]
  rfl

theorem ofString_of_toString? {t : OsText} {s : String} (h : t.toString? = some s) :
    ofString s = t := by
  unfold toString? String.fromUTF8? at h
  split at h
  · cases h; rfl
  · cases h

theorem ofString_inj {s s' : String} : ofString s = ofString s' ↔ s = s' := by
  constructor
  · intro h
    have hread := congrArg toString? h
    rw [toString?_ofString, toString?_ofString] at hread
    exact Option.some.inj hread
  · exact congrArg ofString

/-- A character under way: how many octets it still needs, the range of the next one, and the
code so far. -/
structure Unfinished where
  left : Nat
  low : UInt8
  high : UInt8
  code : Nat

def start (b : UInt8) : List Char × Option Unfinished :=
  let code := b.toNat
  if b < 0x80 then ([Char.ofNat code], none)
  else if 0xC2 ≤ b ∧ b ≤ 0xDF then ([], some ⟨1, 0x80, 0xBF, code - 0xC0⟩)
  else if b = 0xE0 then ([], some ⟨2, 0xA0, 0xBF, 0⟩)
  else if b = 0xED then ([], some ⟨2, 0x80, 0x9F, code - 0xE0⟩)
  else if 0xE1 ≤ b ∧ b ≤ 0xEF then ([], some ⟨2, 0x80, 0xBF, code - 0xE0⟩)
  else if b = 0xF0 then ([], some ⟨3, 0x90, 0xBF, 0⟩)
  else if b = 0xF4 then ([], some ⟨3, 0x80, 0x8F, 4⟩)
  else if 0xF1 ≤ b ∧ b ≤ 0xF3 then ([], some ⟨3, 0x80, 0xBF, code - 0xF0⟩)
  else (['\uFFFD'], none)

/-- Takes one more octet. A character that cannot go on becomes one replacement character, and
the octet that broke it starts afresh. -/
def next : Option Unfinished → UInt8 → List Char × Option Unfinished
  | none, b => start b
  | some u, b =>
    if u.low ≤ b ∧ b ≤ u.high then
      let code := u.code * 64 + (b.toNat - 0x80)
      if u.left = 1 then ([Char.ofNat code], none)
      else ([], some ⟨u.left - 1, 0x80, 0xBF, code⟩)
    else
      let (chars, rest) := start b
      ('\uFFFD' :: chars, rest)

def readable : Option Unfinished → List UInt8 → List Char
  | none, [] => []
  | some _, [] => ['\uFFFD']
  | u, b :: rest =>
    let (chars, v) := next u b
    chars ++ readable v rest

/-- The text with each longest unreadable piece shown as one replacement character. -/
def display (t : OsText) : String := String.ofList (readable none t.octets.data.toList)

end OsText

end BuildHook
