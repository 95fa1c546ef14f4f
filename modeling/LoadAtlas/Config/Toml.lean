import LoadAtlas.Config.Basic
import LoadAtlas.Toml.Line

/-!
# Configurations in TOML

A configuration is written as a table with one line for each field.  Values are integers of 64
bits with a sign, so a configuration with a greater word has no written form.  A table is read
in the same way as an object in JSON: fields that are not given keep their standard values,
and a configuration that is not sound is refused.
-/

namespace LoadAtlas
namespace Config

/-- Why a TOML text holds no configuration. -/
inductive TomlFault
  /-- The text is no table of natural numbers, or its keys are not fields, each at most once. -/
  | unreadable
  | refused (fault : Fault)
  deriving Inhabited

/-- What has been read of a table: the fields given so far, and the configuration. -/
structure TomlDraft where
  given : List Field := []
  config : Config := standard

def TomlDraft.addLine? (draft : TomlDraft) : Toml.Line → Option TomlDraft
  | .blank => some draft
  | .entry key value => do
      let field ← Field.ofName? key
      if field ∈ draft.given then none
      else some ⟨field :: draft.given, draft.config.set field (UInt64.ofNat value)⟩

/-- The configuration that a TOML text holds, sound or not. -/
def ofTomlUnchecked? (text : String) : Option Config := do
  let draft ← (← Toml.lines? text).foldlM TomlDraft.addLine? {}
  return draft.config

def ofToml (text : String) : Except TomlFault Config :=
  match ofTomlUnchecked? text with
  | none => .error .unreadable
  | some config => config.check.mapError .refused

def tomlLine (config : Config) (field : Field) : List Char :=
  field.name.toList ++ [' ', '=', ' '] ++ Nat.toDigits 10 (config.get field).toNat

/-- The written form of a configuration, none if a word is too great. -/
def toToml? (config : Config) : Option String :=
  if fields.all fun field => (config.get field).toNat ≤ Toml.greatestInteger then
    some (String.ofList (fields.flatMap fun field => config.tomlLine field ++ ['\n']))
  else none

end Config
end LoadAtlas
