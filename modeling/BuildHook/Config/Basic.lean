import BuildHook.Error
import BuildHook.Json.Decode

namespace BuildHook

structure HookConfig where
  tool : String
  targets : List String
  /-- The directory the tool runs in; the current one if there is none. -/
  workingDir : Option OsText
  deriving DecidableEq, Inhabited

structure Package where
  name : String
  version : String
  description : String
  url : Option String
  author : Option String
  license : String
  packages : List String
  deriving DecidableEq, Inhabited

structure Config where
  hook : HookConfig
  package : Package
  deriving DecidableEq, Inhabited

namespace OsText

def toJson? (t : OsText) : Option Json := t.toString?.map .str

def ofJson? (v : Json) : Option OsText := v.str?.map ofString

end OsText

namespace HookConfig

def default : HookConfig := ⟨"make", ["compiler", "compiler-api"], none⟩

def toJson? (c : HookConfig) : Option Json := do
  let dir ← Json.option? OsText.toJson? c.workingDir
  return .obj [("tool", .str c.tool), ("targets", .strings c.targets), ("working_dir", dir)]

def ofJson? : Json → Option HookConfig := Json.record 3 fun fields ↦ do
  let tool ← (fields.slot 0 "tool").withDefault default.tool Json.str?
  let targets ← (fields.slot 1 "targets").withDefault default.targets Json.strings?
  let dir ← (fields.slot 2 "working_dir").withDefault none (Json.nullable OsText.ofJson?)
  return ⟨tool, targets, dir⟩

end HookConfig

namespace Package

def default : Package where
  name := "yask"
  version := "v2-alpha"
  description := "YASK--Yet Another Stencil Kernel: A framework to facilitate exploration of " ++
    "the HPC stencil-performance design space"
  url := some "https://01.org/yask"
  author := some "Intel Corporation"
  license := "MIT"
  packages := ["yask"]

def toJson (p : Package) : Json :=
  .obj [("name", .str p.name), ("version", .str p.version), ("description", .str p.description),
    ("url", .option .str p.url), ("author", .option .str p.author), ("license", .str p.license),
    ("packages", .strings p.packages)]

/-- A section that says nothing of the address or the author has none; only a missing section
takes them from the default. -/
def ofJson? : Json → Option Package := Json.record 7 fun fields ↦ do
  let name ← (fields.slot 0 "name").withDefault default.name Json.str?
  let version ← (fields.slot 1 "version").withDefault default.version Json.str?
  let description ← (fields.slot 2 "description").withDefault default.description Json.str?
  let url ← (fields.slot 3 "url").withDefault none (Json.nullable Json.str?)
  let author ← (fields.slot 4 "author").withDefault none (Json.nullable Json.str?)
  let license ← (fields.slot 5 "license").withDefault default.license Json.str?
  let packages ← (fields.slot 6 "packages").withDefault default.packages Json.strings?
  return ⟨name, version, description, url, author, license, packages⟩

end Package

namespace Config

def default : Config := ⟨HookConfig.default, Package.default⟩

def toJson? (c : Config) : Option Json := do
  return .obj [("hook", ← c.hook.toJson?), ("package", c.package.toJson)]

def ofJson? : Json → Option Config := Json.record 2 fun fields ↦ do
  let hook ← (fields.slot 0 "hook").withDefault HookConfig.default HookConfig.ofJson?
  let package ← (fields.slot 1 "package").withDefault Package.default Package.ofJson?
  return ⟨hook, package⟩

end Config

end BuildHook
