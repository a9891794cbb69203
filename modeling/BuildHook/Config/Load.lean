import BuildHook.Config.Toml
import BuildHook.Log.Record
import BuildHook.Text.Basic

namespace BuildHook

structure Files where
  read : OsText → Except Fault OsText
  isThere : OsText → Bool

structure Overrides where
  tool : Option OsText
  workingDir : Option OsText
  deriving DecidableEq, Inhabited

namespace Config

def validate (c : Config) : Except ConfigError Unit :=
  if Text.isBlank c.hook.tool then .error (.invalidValue "hook.tool" c.hook.tool)
  else if c.hook.targets.isEmpty then .error (.invalidValue "hook.targets" "[]")
  else match c.hook.targets.find? Text.isBlank with
    | some target => .error (.invalidValue "hook.targets" (Text.quoted target))
    | none => .ok ()

def defaultPath : OsText := .ofString "extbuild.toml"

def toolVariable : String := "EXTBUILD_TOOL"

def workingDirVariable : String := "EXTBUILD_WORKING_DIR"

def malformed : String := "not a configuration"

def ofText (s : String) : Except ConfigError Config :=
  match (Toml.parse? s).bind ofToml? with
  | none => .error (.malformed malformed)
  | some c => (c.validate).map fun _ ↦ c

def loadFile (files : Files) (path : OsText) : Except Error Config :=
  match files.read path with
  | .error fault =>
    if fault.kind = .notFound then .error (.config (.notFound path.display))
    else .error (.system fault (some path))
  | .ok content =>
    match content.toString? with
    | none => .error (.system .notText (some path))
    | some s => (ofText s).mapError .config

def chosenPath (files : Files) : Option OsText → Option OsText
  | some path => some path
  | none => if files.isThere defaultPath then some defaultPath else none

def load (files : Files) (path : Option OsText) : Except Error Config × List LogRecord :=
  match chosenPath files path with
  | none => (.ok default, [])
  | some path =>
    match loadFile files path with
    | .error e => (.error e, [])
    | .ok c =>
      (.ok c, [⟨.debug, .config, "loaded configuration", [("path", .shown path.display)]⟩])

def mergeTool (c : Config) : Option OsText → Except ConfigError Config
  | none => .ok c
  | some value =>
    match value.toString? with
    | none => .error (.invalidValue toolVariable value.display)
    | some tool =>
      if Text.isBlank tool then .error (.invalidValue toolVariable tool)
      else .ok { c with hook := { c.hook with tool } }

/-- Any directory will do, text or not, but there must be one. -/
def mergeWorkingDir (c : Config) : Option OsText → Except ConfigError Config
  | none => .ok c
  | some value =>
    if value.isEmpty then .error (.invalidValue workingDirVariable "")
    else .ok { c with hook := { c.hook with workingDir := some value } }

/-- Takes the variables over, the tool first. A variable that is refused stops the rest, but what
was taken before it stays. -/
def mergeEnv (c : Config) (env : Overrides) : Config × Except ConfigError Unit :=
  match c.mergeTool env.tool with
  | .error e => (c, .error e)
  | .ok c =>
    match c.mergeWorkingDir env.workingDir with
    | .error e => (c, .error e)
    | .ok c => (c, .ok ())

end Config

end BuildHook
