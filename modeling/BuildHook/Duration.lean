namespace BuildHook

/-- The nanoseconds of a word full of seconds: no duration is as long. -/
def Duration.limit : Nat := 0x10000000000000000 * 1000000000

structure Duration where
  nanos : Nat
  nanos_lt : nanos < Duration.limit
  deriving DecidableEq

namespace Duration

def zero : Duration := ⟨0, by decide⟩

instance : Inhabited Duration := ⟨zero⟩

/-- The duration of so many seconds and nanoseconds; full seconds among the nanoseconds carry
over. -/
def ofParts? (seconds nanos : Nat) : Option Duration :=
  if h : seconds * 1000000000 + nanos < limit then some ⟨_, h⟩ else none

def seconds (d : Duration) : Nat := d.nanos / 1000000000

def subsecond (d : Duration) : Nat := d.nanos % 1000000000

def millis (d : Duration) : Nat := d.nanos / 1000000

/-- The sum, or the longest duration if the sum is longer. -/
def add (d e : Duration) : Duration :=
  if h : d.nanos + e.nanos < limit then ⟨_, h⟩ else ⟨limit - 1, by decide⟩

def total (l : List Duration) : Duration := l.foldr add zero

theorem ofParts?_parts (d : Duration) : ofParts? d.seconds d.subsecond = some d := by
  have h : d.nanos / 1000000000 * 1000000000 + d.nanos % 1000000000 = d.nanos :=
    Nat.div_add_mod' _ _
  simp only [ofParts?, seconds, subsecond, h, d.nanos_lt, ↓reduceDIte]

theorem seconds_lt (d : Duration) : d.seconds < 0x10000000000000000 := by
  have h := d.nanos_lt
  unfold limit at h
  unfold seconds
  omega

theorem subsecond_lt (d : Duration) : d.subsecond < 1000000000 := Nat.mod_lt _ (by decide)

end Duration

end BuildHook
