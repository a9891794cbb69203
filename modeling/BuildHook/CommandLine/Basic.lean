import BuildHook.Phase
import BuildHook.Text.Os

namespace BuildHook

inductive Verb where
  | buildExt
  | build
  | install
  | plan
  | check
  | info
  deriving DecidableEq, Inhabited

structure Options where
  json : Bool
  debug : Bool
  config : Option OsText
  deriving DecidableEq, Inhabited

structure Request where
  verb : Verb
  options : Options
  deriving DecidableEq, Inhabited

inductive Switch where
  | json
  | debug
  | config
  | help
  | version
  deriving DecidableEq, Inhabited

inductive Page where
  | program
  | verb (v : Verb)
  | help
  deriving DecidableEq, Inhabited

inductive Misuse where
  /-- Nothing at all was asked for. -/
  | nothing
  | noVerb
  | unknownVerb (word : String)
  | unknownWord (word : String)
  | repeated (s : Switch)
  | noValue
  | unwantedValue (value : String) (s : Switch)
  deriving DecidableEq

/-- Why a command line is no request. Asking for help or the version is no misuse. -/
inductive Deviation where
  | help (p : Page)
  | version
  | misuse (m : Misuse)
  deriving DecidableEq

namespace Verb

def name : Verb → String
  | buildExt => "build-ext"
  | build => "build"
  | install => "install"
  | plan => "plan"
  | check => "check"
  | info => "info"

def all : List Verb := [buildExt, build, install, plan, check, info]

def ofName? (s : String) : Option Verb :=
  if s = "build_ext" then some buildExt else all.find? fun v ↦ v.name = s

def phase : Verb → Option Phase
  | buildExt => some .buildExt
  | build => some .build
  | install => some .install
  | _ => none

end Verb

namespace Options

def unset : Options := ⟨false, false, none⟩

/-- The options on both sides of the verb; of two paths the later counts. -/
def join (before after : Options) : Options :=
  ⟨before.json || after.json, before.debug || after.debug, after.config <|> before.config⟩

end Options

namespace Switch

def name : Switch → String
  | json => "json"
  | debug => "debug"
  | config => "config"
  | help => "help"
  | version => "version"

def letter : Switch → Option Char
  | help => some 'h'
  | version => some 'V'
  | _ => none

def available : Option Verb → List Switch
  | none => [json, debug, config, help, version]
  | some _ => [json, debug, config, help]

def shown : Switch → String
  | config => "--config <PATH>"
  | s => "--" ++ s.name

end Switch

end BuildHook
