import LoadAtlas.Config.Toml
import LoadAtlas.Proofs.Config.Json
import LoadAtlas.Proofs.Toml.Line

/-!
# Configurations written in TOML

A configuration has a written form in TOML exactly if none of its words is beyond the greatest
integer with a sign.  The form is a table with one entry for each field.  Reading it gives these
fields back, and then the configuration is checked just as if it were read from JSON.
-/

namespace LoadAtlas
namespace Config

variable {config : Config} {chosen : List Field} {text : String}

/-- No word of a configuration is beyond the greatest integer. -/
def FitsToml (config : Config) : Prop :=
  ∀ field, (config.get field).toNat ≤ Toml.greatestInteger

/-! ## What is written -/

/-- The table of a configuration, whether its words fit or not. -/
def tomlTable (config : Config) : List Char :=
  (fields.map config.tomlLine).flatMap (· ++ ['\n'])

theorem toToml?_eq_some_iff :
    config.toToml? = some text ↔ config.FitsToml ∧ text = String.ofList config.tomlTable := by
  have fits : (fields.all fun field => (config.get field).toNat ≤ Toml.greatestInteger) = true ↔
      config.FitsToml := by
    simp [FitsToml, Field.mem_fields]
  rw [toToml?, tomlTable, List.flatMap_map, Option.ite_none_right_eq_some, Option.some.injEq, fits,
    eq_comm (a := text)]

theorem isSome_toToml?_iff : config.toToml?.isSome = true ↔ config.FitsToml := by
  simp only [Option.isSome_iff_exists, toToml?_eq_some_iff, exists_and_left, exists_eq, and_true]

/-! ## What is read -/

/-- What the line of a field holds. -/
def tomlEntry (config : Config) (field : Field) : Toml.Line :=
  .entry field.name (config.get field).toNat

theorem isBareKey_name (field : Field) : Toml.IsBareKey field.name.toList := by
  cases field <;> exact ⟨by decide, List.all_eq_true.mp (by decide)⟩

theorem ofCharacters?_tomlLine (fits : config.FitsToml) (field : Field) :
    Toml.Line.ofCharacters? (config.tomlLine field) = some (config.tomlEntry field) := by
  have entry := Toml.ofCharacters?_writeEntry (isBareKey_name field) (fits field)
  rwa [String.ofList_toList] at entry

theorem mapM_tomlLine (fits : config.FitsToml) (chosen : List Field) :
    (chosen.map config.tomlLine ++ [[]]).mapM Toml.Line.ofCharacters? =
      some (chosen.map config.tomlEntry ++ [.blank]) := by
  induction chosen with
  | nil => rfl
  | cons field chosen induction =>
      rw [List.map_cons, List.cons_append, List.mapM_cons, ofCharacters?_tomlLine fits, induction]
      rfl

theorem lines?_tomlTable (fits : config.FitsToml) :
    Toml.lines? (String.ofList config.tomlTable) =
      some (fields.map config.tomlEntry ++ [.blank]) := by
  have unmarked : Toml.withoutMark config.tomlTable = config.tomlTable :=
    Toml.withoutMark_append (isBareKey_name .topLevel) _
  have split : Toml.splitLines config.tomlTable = fields.map config.tomlLine ++ [[]] := by
    apply Toml.splitLines_flatMap
    rw [List.forall_mem_map]
    exact fun field _ => Toml.isLine_writeEntry (isBareKey_name field) _
  rw [Toml.lines?, String.toList_ofList, unmarked, split]
  exact mapM_tomlLine fits fields

theorem addLine?_tomlEntry {draft : TomlDraft} {field : Field} (fresh : field ∉ draft.given) :
    draft.addLine? (config.tomlEntry field) =
      some ⟨field :: draft.given, draft.config.set field (config.get field)⟩ := by
  simp [tomlEntry, TomlDraft.addLine?, fresh]

/-- The entries of some fields, each given once and for the first time, replace these fields. -/
theorem foldlM_tomlEntry {draft : TomlDraft} (distinct : chosen.Nodup)
    (fresh : ∀ field ∈ chosen, field ∉ draft.given) :
    (chosen.map config.tomlEntry).foldlM TomlDraft.addLine? draft =
      some ⟨chosen.reverse ++ draft.given, draft.config.override (config.members chosen)⟩ := by
  induction chosen generalizing draft with
  | nil => rfl
  | cons field chosen induction =>
      rw [List.nodup_cons] at distinct
      obtain ⟨here, later⟩ := List.forall_mem_cons.mp fresh
      have stillFresh : ∀ other ∈ chosen, other ∉ field :: draft.given := by
        intro other member again
        rcases List.mem_cons.mp again with rfl | given
        · exact distinct.1 member
        · exact later other member given
      have absent : field.name ∉ (config.members chosen).map Prod.fst := by
        rw [members, List.map_map]
        intro again
        obtain ⟨other, member, same⟩ := List.mem_map.mp again
        exact distinct.1 (Field.name_injective same ▸ member)
      rw [List.map_cons, List.foldlM_cons, addLine?_tomlEntry here]
      refine (@induction ⟨field :: draft.given, draft.config.set field (config.get field)⟩
        distinct.2 stillFresh).trans ?_
      rw [override_cons _ _ _ absent, List.reverse_cons, List.append_assoc]
      rfl

theorem ofTomlUnchecked?_tomlTable (fits : config.FitsToml) :
    ofTomlUnchecked? (String.ofList config.tomlTable) = some config := by
  have given := @foldlM_tomlEntry config fields {} (by decide) fun _ _ => List.not_mem_nil
  rw [ofTomlUnchecked?, lines?_tomlTable fits]
  simp only [Option.bind_eq_bind, Option.bind_some, List.foldlM_append, given]
  exact congrArg some (override_members config standard)

/-- A configuration that was written is read back, and then checked. -/
theorem ofToml_of_toToml? (written : config.toToml? = some text) :
    ofToml text = config.check.mapError .refused := by
  obtain ⟨fits, rfl⟩ := toToml?_eq_some_iff.mp written
  rw [ofToml, ofTomlUnchecked?_tomlTable fits]

/-! ## All that can be told of a round trip -/

/-- What becomes of a configuration that is written as a table and read again. -/
structure ReadsTableBack (write : Config → Option String)
    (read : String → Except TomlFault Config) (config : Config) : Prop where
  /-- It can be written if its words fit, and only then. -/
  written : (write config).isSome = true ↔ ∀ field, (config.get field).toNat ≤ 2 ^ 63 - 1
  /-- A sound configuration comes back as it was, as it does from its JSON form. -/
  sound : ∀ text, write config = some text → config.fault? = none →
    read text = .ok config ∧ ofJson config.toJson = .ok config
  /-- Any other one is refused for what its check finds. -/
  unsound : ∀ text fault, write config = some text → config.fault? = some fault →
    read text = .error (.refused fault)

theorem readsTableBack_ofToml (config : Config) : ReadsTableBack toToml? ofToml config where
  written := isSome_toToml?_iff
  sound text written sound := by
    have checked : config.check = .ok config := check_eq_ok_iff.mpr ⟨sound, rfl⟩
    rw [ofToml_of_toToml? written, ofJson_toJson_eq, checked]
    exact ⟨rfl, rfl⟩
  unsound text fault written found := by
    rw [ofToml_of_toToml? written, check, found]
    rfl

end Config
end LoadAtlas
