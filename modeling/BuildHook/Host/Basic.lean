import BuildHook.Config.Load
import BuildHook.Host.Layout

namespace BuildHook

structure Host where
  layout : Layout
  start : Place
  searchPath : List OsText
  deriving Inhabited

namespace Host

def pathOf (place : Place) : OsText :=
  if place.isEmpty then .ofString "/"
  else place.foldl (fun path name ↦ path ++ .ofString "/" ++ name) (.ofString "")

def read (h : Host) (path : OsText) : Except Fault OsText :=
  if path.hasNul then .error .nulInPath
  else do
    match h.layout.node? (← h.layout.resolve h.start path) with
    | some (.file content _) => .ok content
    | some .folder => .error .isADirectory
    | none => .error .notFound

def files (h : Host) : Files where
  read := h.read
  isThere path := !path.hasNul && (h.layout.resolve h.start path).isOk

/-- What can be run at the end of a path that is followed from `dir`. -/
def runnable (h : Host) (dir : Place) (path : OsText) : Except Fault Place := do
  let place ← h.layout.resolve dir path
  match h.layout.node? place with
  | some (.file _ true) => .ok place
  | _ => .error .permissionDenied

/-- The parts of a path that count: blanks between slashes and single dots do not, but for a dot
in front. -/
def components (path : OsText) : List OsText :=
  let named := path.parts.filter fun p ↦ !p.isEmpty && p ≠ .dot
  let root := if path.isAbsolute then [OsText.ofString "/"] else []
  let here := if path.parts.head? = some .dot then [OsText.dot] else []
  root ++ here ++ named

/-- The path under which a program with a slash in its name is looked for. -/
def anchored (h : Host) (path : OsText) : OsText :=
  if path.isAbsolute then path
  else ((components path).filter (· ≠ .dot)).foldl OsText.join (pathOf h.start)

/-- The paths that a name may stand for. A name of one part is searched for in the folders for
programs, any other is a path from where the program started. -/
def candidates (h : Host) (name : String) : List OsText :=
  let path := OsText.ofString name
  if 1 < (components path).length then [h.anchored path]
  else h.searchPath.map fun folder ↦ folder.join path

def which (h : Host) (name : String) : Option OsText :=
  (h.candidates name).find? fun p ↦ !p.hasNul && (h.runnable h.start p).isOk

/-- Tries folders one after the other. A folder that has no such program is passed over, but one
that has it and may not run it is remembered. -/
def search (h : Host) (dir : Place) (name : OsText) : Fault → List OsText → Except Fault Place
  | last, [] => .error last
  | last, folder :: rest =>
    match h.runnable dir (folder.join name) with
    | .ok place => .ok place
    | .error fault =>
      if fault = .permissionDenied then h.search dir name fault rest
      else if fault = .notFound ∨ fault = .notADirectory then h.search dir name last rest
      else .error fault

def enter (h : Host) : Option OsText → Except Fault Place
  | none => .ok h.start
  | some path => do
    let place ← h.layout.resolve h.start path
    if h.layout.node? place = some .folder then .ok place else .error .notADirectory

/-- The folders that starting a process searches. If there are none, it is the one that the
process runs in. -/
def searched (h : Host) : List OsText :=
  if h.searchPath.isEmpty then [.ofString ""] else h.searchPath

/-- The program that a process started in `dir` would run. -/
def locate (h : Host) (dir : Place) (program : String) : Except Fault Place :=
  let path := OsText.ofString program
  if path.hasSlash then h.runnable dir path
  else if path.isEmpty then .error .notFound
  else if Layout.maxName < path.octets.size then .error .nameTooLong
  else h.search dir path .notFound h.searched

end Host

end BuildHook
