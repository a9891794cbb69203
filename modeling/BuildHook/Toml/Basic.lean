namespace BuildHook.Toml

inductive Value where
  | string (s : String)
  | integer (n : Int)
  /-- The digits do not matter here, only whether the number is too large for a double. -/
  | float (tooLarge : Bool)
  | boolean (b : Bool)
  | datetime
  | array (items : List Value)
  | table (entries : List (String × Value))
  deriving Inhabited

namespace Value

mutual

/-- Whether every number in the value can be held. An unknown setting does no harm otherwise. -/
def holdable : Value → Bool
  | integer n => -(Nat.pow 2 127 : Int) ≤ n ∧ n < (Nat.pow 2 128 : Int)
  | float tooLarge => !tooLarge
  | array items => holdableItems items
  | table entries => holdableEntries entries
  | _ => true

def holdableItems : List Value → Bool
  | [] => true
  | v :: rest => holdable v && holdableItems rest

def holdableEntries : List (String × Value) → Bool
  | [] => true
  | (_, v) :: rest => holdable v && holdableEntries rest

end

end Value

/-- Reads something at the start of a text, and gives back what follows. -/
abbrev Reader (α : Type) := List Char → Option (α × List Char)

end BuildHook.Toml
