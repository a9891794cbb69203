import BuildHook.Json.Basic
import BuildHook.Log.Record
import BuildHook.Text.Basic

namespace BuildHook

inductive LogStyle where
  | plain
  | json
  deriving DecidableEq, Inhabited

namespace LogRecord

def guarded (s : String) : String :=
  String.join <| s.toList.map fun c ↦
    if c = '\x1b' then "\\x1b"
    else if c = '\x07' then "\\x07"
    else if c = '\x08' then "\\x08"
    else if c = '\x0c' then "\\x0c"
    else if c = '\x7f' then "\\x7f"
    else if 0x80 ≤ c.toNat ∧ c.toNat ≤ 0x9f then "\\u\x7b" ++ Text.hex c.toNat ++ "\x7d"
    else c.toString

/-- A detail called message is shown as a message is, without its name. -/
def plainDetail (name : String) : Detail → String
  | .text s => name ++ "=" ++ Text.quoted s
  | .shown s => if name = "message" then guarded s else name ++ "=" ++ s
  | .number n => name ++ "=" ++ toString n

def paddedLevel (l : Level) : String :=
  String.ofList (List.replicate (5 - l.label.length) ' ') ++ l.label

def plainLine (time : String) (r : LogRecord) : String :=
  time ++ " " ++ paddedLevel r.level ++ " " ++ r.component.target ++ ": " ++
    " ".intercalate (guarded r.message :: r.details.map fun d ↦ plainDetail d.1 d.2) ++ "\n"

def detailJson : Detail → Json
  | .text s => .str s
  | .shown s => .str s
  | .number n => .int n

def jsonLine (time : String) (r : LogRecord) : String :=
  (Json.obj [("timestamp", .str time), ("level", .str r.level.label),
    ("fields", .obj (("message", .str r.message) ::
      r.details.map fun d ↦ (d.1, detailJson d.2))),
    ("target", .str r.component.target)]).compact ++ "\n"

def write (style : LogStyle) (time : String) (r : LogRecord) : String :=
  match style with
  | .plain => plainLine time r
  | .json => jsonLine time r

end LogRecord

end BuildHook
