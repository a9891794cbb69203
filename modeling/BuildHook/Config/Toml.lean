import BuildHook.Config.Basic
import BuildHook.Toml.Document

namespace BuildHook

namespace Toml

/-- What a section sets, by the names of its fields. A date sets nothing. -/
def section? (fields : List String) : Value → Option (String → Option Value)
  | .table entries =>
    if (entries.filter fun e ↦ !fields.contains e.1).all fun e ↦ e.2.holdable then
      some fun name ↦ entries.lookup name
    else none
  | .array items => some fun name ↦ items[fields.idxOf name]?
  | .datetime => some fun _ ↦ none
  | _ => none

def setting {α : Type} (fallback : α) (read : Value → Option α) : Option Value → Option α
  | none => some fallback
  | some v => read v

def Value.string? : Value → Option String
  | .string s => some s
  | _ => none

def Value.strings? : Value → Option (List String)
  | .array items => items.mapM Value.string?
  | _ => none

end Toml

namespace HookConfig

def fieldNames : List String := ["tool", "targets", "working_dir"]

def ofToml? (v : Toml.Value) : Option HookConfig := do
  let get ← Toml.section? fieldNames v
  let tool ← Toml.setting default.tool Toml.Value.string? (get "tool")
  let targets ← Toml.setting default.targets Toml.Value.strings? (get "targets")
  let dir ← Toml.setting none (fun v ↦ v.string?.map fun s ↦ some (OsText.ofString s))
    (get "working_dir")
  return ⟨tool, targets, dir⟩

end HookConfig

namespace Package

def fieldNames : List String :=
  ["name", "version", "description", "url", "author", "license", "packages"]

def ofToml? (v : Toml.Value) : Option Package := do
  let get ← Toml.section? fieldNames v
  let name ← Toml.setting default.name Toml.Value.string? (get "name")
  let version ← Toml.setting default.version Toml.Value.string? (get "version")
  let description ← Toml.setting default.description Toml.Value.string? (get "description")
  let url ← Toml.setting none (fun v ↦ v.string?.map some) (get "url")
  let author ← Toml.setting none (fun v ↦ v.string?.map some) (get "author")
  let license ← Toml.setting default.license Toml.Value.string? (get "license")
  let packages ← Toml.setting default.packages Toml.Value.strings? (get "packages")
  return ⟨name, version, description, url, author, license, packages⟩

end Package

namespace Config

def fieldNames : List String := ["hook", "package"]

def ofToml? (v : Toml.Value) : Option Config := do
  let get ← Toml.section? fieldNames v
  let hook ← Toml.setting HookConfig.default HookConfig.ofToml? (get "hook")
  let package ← Toml.setting Package.default Package.ofToml? (get "package")
  return ⟨hook, package⟩

end Config

end BuildHook
