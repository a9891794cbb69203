import BuildHook.Program.Basic
import BuildHook.Timestamp
import BuildHook.Uuid
import Std.Time.DateTime.Timestamp

namespace BuildHook.Machine

/-- The system's error number, which may come with its sign turned round. -/
def errorNumber (code : UInt32) : Int :=
  if code < 0x80000000 then code.toNat else 0x100000000 - code.toNat

def faultOf : IO.Error → Fault
  | .noFileOrDirectory _ code _ => .ofCode (errorNumber code)
  | .permissionDenied _ code _ => .ofCode (errorNumber code)
  | .inappropriateType _ code _ => .ofCode (errorNumber code)
  | .invalidArgument _ code _ => .ofCode (errorNumber code)
  | .resourceExhausted _ code _ => .ofCode (errorNumber code)
  | e => ⟨.other, toString e⟩

def readFile (path : OsText) : IO (Except Fault OsText) := do
  match path.toString? with
  | none => return .error .notFound
  | some name =>
    match ← (IO.FS.readBinFile name).toBaseIO with
    | .ok content => return .ok ⟨content⟩
    | .error e => return .error (faultOf e)

def variableOf (name : String) : IO (Option OsText) := do
  return (← IO.getEnv name).map OsText.ofString

def requestedPath (args : List OsText) : Option OsText :=
  match CommandLine.parse args with
  | .ok r => r.options.config
  | .error _ => none

def host : IO Host := do
  let here := OsText.ofString (← IO.currentDir).toString
  let folders := ((← variableOf "PATH").map fun path ↦
    (OsText.splitOctets 0x3A path.octets.data.toList).map fun l ↦ ⟨⟨l.toArray⟩⟩).getD []
  return ⟨⟨[]⟩, here.parts.filter fun p ↦ !p.isEmpty, folders⟩

def firstReadable : List OsText → IO (Option OsText)
  | [] => return none
  | path :: rest => do
    match ← readFile path with
    | .ok _ => return some path
    | .error _ => firstReadable rest

def idle : Executor Unit := fun _ c ↦
  (⟨[.emit (Host.spawning c)],
    .refused (.platform (.executionFailed c.text "this front end starts no processes")), .zero⟩, ())

def idOf (octets : ByteArray) (n : Nat) : String :=
  let number := octets.foldl (fun n b ↦ n * 256 + b.toNat) 0 + n
  let digits := Nat.toDigits 16 (number % Nat.pow 16 32)
  let all := String.ofList (List.replicate (32 - digits.length) '0' ++ digits)
  ((Uuid.parse? all).map Uuid.text).getD all

def now : IO String := do
  let nanos := (← Std.Time.Timestamp.now).toNanosecondsSinceUnixEpoch.toInt
  let seconds := nanos.fdiv 1000000000
  return Timestamp.text
    ⟨seconds.fdiv 86400, (seconds.fmod 86400).toNat, (nanos.fmod 1000000000).toNat⟩

def surroundings (args : List OsText) : IO (Surroundings Unit) := do
  let requested := requestedPath args
  let content ← readFile (requested.getD Config.defaultPath)
  let files : Files :=
    ⟨fun _ ↦ content, fun _ ↦ match content with
      | .ok _ => true
      | .error fault => fault.kind ≠ .notFound⟩
  let overrides : Overrides :=
    ⟨← variableOf Config.toolVariable, ← variableOf Config.workingDirVariable⟩
  let time ← now
  let octets ← IO.getRandomBytes 16
  let colored := (← (← IO.getStderr).isTty) && (← IO.getEnv "NO_COLOR").isNone
  let s : Surroundings Unit :=
    ⟨files, overrides, ← variableOf Logging.variableName, colored, fun _ ↦ none, idle,
      fun _ ↦ time, idOf octets⟩
  match (s.settings ⟨false, false, requested⟩).1 with
  | .error _ => return s
  | .ok c =>
    let found ← firstReadable ((← host).candidates c.hook.tool)
    return { s with which := fun _ ↦ found }

end BuildHook.Machine

def main (args : List String) : IO UInt32 := do
  let args := args.map BuildHook.OsText.ofString
  let s ← BuildHook.Machine.surroundings args
  let ids ← IO.getRandomBytes 16
  let t := s.run args ⟨(), BuildHook.Machine.idOf ids⟩
  IO.eprint t.stderr
  IO.print t.stdout
  return (t.exitStatus.getD 1).toUInt32
