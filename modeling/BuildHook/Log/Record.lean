import BuildHook.Event.Basic

namespace BuildHook

inductive Component where
  | program
  | events
  | config
  | lifecycle
  | hook
  | process
  deriving DecidableEq, Inhabited

/-- A value in a record. Text proper is told apart from the text that merely shows a value. -/
inductive Detail where
  | text (s : String)
  | shown (s : String)
  | number (n : Int)
  deriving DecidableEq, Inhabited

structure LogRecord where
  level : Level
  component : Component
  message : String
  details : List (String × Detail)
  deriving DecidableEq, Inhabited

def Component.target : Component → String
  | program => "extbuild"
  | events => "extbuild::logging"
  | config => "extbuild_config"
  | lifecycle => "extbuild_builder::lifecycle"
  | hook => "extbuild_builder::core::hook"
  | process => "extbuild_platform::implementations::system::process"

namespace Detail

def count (n : Nat) : Detail := .number n

def exitCode : Option Int32 → Detail
  | none => .shown "None"
  | some code => .shown ("Some(" ++ toString code ++ ")")

end Detail

end BuildHook
