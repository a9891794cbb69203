import BuildHook.Duration
import BuildHook.Json.Basic

namespace BuildHook

namespace Json

inductive Slot where
  | given (value : Json)
  /-- An object without the member. -/
  | unset
  /-- A list that ends before the field. -/
  | beyond

inductive Fields where
  | named (members : List (String × Json))
  | listed (items : List Json)

namespace Fields

def of? : Json → Option Fields
  | .obj members => some (.named members)
  | .arr items => some (.listed items)
  | _ => none

def slot (fields : Fields) (position : Nat) (name : String) : Slot :=
  match fields with
  | .named members => match members.lookup name with
    | some v => .given v
    | none => .unset
  | .listed items => match items[position]? with
    | some v => .given v
    | none => .beyond

/-- A list has at most as many items as the record has fields. -/
def fit (fields : Fields) (count : Nat) : Bool :=
  match fields with
  | .named _ => true
  | .listed items => items.length ≤ count

end Fields

def record {α : Type} (count : Nat) (read : Fields → Option α) (v : Json) : Option α := do
  let fields ← Fields.of? v
  guard (fields.fit count)
  read fields

namespace Slot

variable {α : Type}

def required (read : Json → Option α) : Slot → Option α
  | .given v => read v
  | _ => none

/-- Null is no value, and so is a missing member; a list must have the field. -/
def optional (read : Json → Option α) : Slot → Option (Option α)
  | .given .null => some none
  | .given v => (read v).map some
  | .unset => some none
  | .beyond => none

/-- Whatever is missing is the default; null is a value. -/
def withDefault (fallback : α) (read : Json → Option α) : Slot → Option α
  | .given v => read v
  | _ => some fallback

end Slot

def nullable {α : Type} (read : Json → Option α) : Json → Option (Option α)
  | .null => some none
  | v => (read v).map some

def bool? : Json → Option Bool
  | .bool b => some b
  | _ => none

def str? : Json → Option String
  | .str s => some s
  | _ => none

def items? : Json → Option (List Json)
  | .arr items => some items
  | _ => none

def listOf? {α : Type} (read : Json → Option α) (v : Json) : Option (List α) := do
  (← v.items?).mapM read

def strings? (v : Json) : Option (List String) := listOf? str? v

/-- A count or an index; a larger one does not fit into a word. -/
def count? : Json → Option Nat
  | .int n => if 0 ≤ n ∧ n < 0x10000000000000000 then some n.toNat else none
  | _ => none

/-- The number of nanoseconds beside the seconds, a word of half the size. -/
def halfWord? : Json → Option Nat
  | .int n => if 0 ≤ n ∧ n < 0x100000000 then some n.toNat else none
  | _ => none

def exitCode? : Json → Option Int32
  | .int n => if -0x80000000 ≤ n ∧ n < 0x80000000 then some (Int32.ofInt n) else none
  | _ => none

/-- One of several names: the name itself, or an object whose one member has that name and
no value. -/
def choice? : Json → Option String
  | .str s => some s
  | .obj [(name, .null)] => some name
  | _ => none

def tagged? (tag : String) : Json → Option (String × Fields)
  | .obj members => do
    let name ← (← members.lookup tag).str?
    some (name, .named (members.filter fun m ↦ m.1 ≠ tag))
  | .arr (.str name :: rest) => some (name, .listed rest)
  | _ => none

end Json

namespace Duration

def toJson (d : Duration) : Json :=
  .obj [("secs", .nat d.seconds), ("nanos", .nat d.subsecond)]

/-- Here, and only here, a member of another name is refused. -/
def ofJson? (v : Json) : Option Duration := do
  let fields ← Json.Fields.of? v
  guard (fields.fit 2)
  match fields with
  | .named members => guard (members.all fun m ↦ m.1 = "secs" ∨ m.1 = "nanos")
  | .listed _ => pure ()
  let seconds ← (fields.slot 0 "secs").required Json.count?
  let nanos ← (fields.slot 1 "nanos").required Json.halfWord?
  ofParts? seconds nanos

end Duration

end BuildHook
