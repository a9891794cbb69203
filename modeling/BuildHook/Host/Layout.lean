import BuildHook.Fault
import BuildHook.Text.Os

namespace BuildHook

abbrev Place := List OsText

inductive FileNode where
  | folder
  | file (content : OsText) (executable : Bool)
  deriving DecidableEq, Inhabited

/-- A place that leads to an entry is a folder even if it has no entry itself. -/
structure Layout where
  entries : List (Place × FileNode)
  deriving Inhabited

namespace OsText

def slash : UInt8 := 0x2F

def splitOctets (separator : UInt8) : List UInt8 → List (List UInt8)
  | [] => [[]]
  | b :: rest =>
    match splitOctets separator rest with
    | [] => [[b]]
    | part :: parts => if b = separator then [] :: part :: parts else (b :: part) :: parts

def parts (path : OsText) : List OsText :=
  (splitOctets slash path.octets.data.toList).map fun l ↦ ⟨⟨l.toArray⟩⟩

def hasSlash (path : OsText) : Bool := path.octets.data.contains slash

def hasNul (path : OsText) : Bool := path.octets.data.contains 0

def isAbsolute (path : OsText) : Bool := path.octets.data[0]? = some slash

def dot : OsText := ofString "."

def dotDot : OsText := ofString ".."

/-- The path of something in a folder; an absolute path stays as it is. -/
def join (folder path : OsText) : OsText :=
  if path.isAbsolute ∨ folder.isEmpty then path
  else if folder.octets.data.back? = some slash then folder ++ path
  else folder ++ ofString "/" ++ path

end OsText

namespace Layout

def node? (l : Layout) (place : Place) : Option FileNode :=
  match l.entries.lookup place with
  | some n => some n
  | none => if l.entries.any fun e ↦ place.isPrefixOf e.1 then some .folder else none

def maxName : Nat := 255
def maxPath : Nat := 4096

/-- Goes on from a place along the parts of a path. Only a folder can be gone on from. -/
def walk (l : Layout) : Place → List OsText → Except Fault Place
  | place, [] => .ok place
  | place, part :: rest =>
    if l.node? place ≠ some .folder then .error .notADirectory
    else if part.isEmpty ∨ part = .dot then l.walk place rest
    else if part = .dotDot then l.walk place.dropLast rest
    else if maxName < part.octets.size then .error .nameTooLong
    else if (l.node? (place ++ [part])).isNone then .error .notFound
    else l.walk (place ++ [part]) rest

def resolve (l : Layout) (start : Place) (path : OsText) : Except Fault Place :=
  if path.isEmpty then .error .notFound
  else if maxPath ≤ path.octets.size then .error .nameTooLong
  else l.walk (if path.isAbsolute then [] else start) path.parts

end Layout

end BuildHook
