import LoadAtlas.Config.Basic
import LoadAtlas.Proofs.Table.Lookup
import Mathlib.Data.List.Induction
import Mathlib.Data.List.Nodup
import Mathlib.Data.List.Perm.Basic

/-!
# Fields given by name

A configuration is known by its fields.  Words that are given to fields by their names replace
those of a configuration; if no name is there twice, it does not matter in which order they are
given.
-/

namespace LoadAtlas
namespace Config

/-! ## Fields -/

def fieldNames : List String :=
  fields.map Field.name

theorem Field.mem_fields (field : Field) : field ∈ fields := by
  cases field <;> decide

theorem nodup_fieldNames : fieldNames.Nodup := by
  decide

theorem Field.name_injective : Function.Injective Field.name := fun first second same =>
  List.inj_on_of_nodup_map nodup_fieldNames first.mem_fields second.mem_fields same

@[simp] theorem ofName?_name (field : Field) : Field.ofName? field.name = some field := by
  cases field <;> rfl

theorem ofName?_eq_none_iff {name : String} : Field.ofName? name = none ↔ name ∉ fieldNames := by
  simp [Field.ofName?, fieldNames]

theorem get_set (config : Config) (field other : Field) (value : UInt64) :
    (config.set field value).get other = if other = field then value else config.get other := by
  cases field <;> cases other <;> rfl

/-- The configuration with the given value of each field. -/
def tabulate (value : Field → UInt64) : Config where
  topLevel := value .topLevel
  maxLevel := value .maxLevel
  splitThreshold := value .splitThreshold
  mergeThreshold := value .mergeThreshold
  mergeInterval := value .mergeInterval
  rotationInterval := value .rotationInterval
  retention := value .retention
  bucketPrecision := value .bucketPrecision

@[simp] theorem get_tabulate (value : Field → UInt64) (field : Field) :
    (tabulate value).get field = value field := by
  cases field <;> rfl

@[simp] theorem tabulate_get (config : Config) : tabulate config.get = config := rfl

theorem ext_get {config other : Config} (same : ∀ field, config.get field = other.get field) :
    config = other := by
  rw [← tabulate_get config, ← tabulate_get other, funext same]

/-- The configuration with the words that are given to fields by their names. -/
def override (config : Config) (pairs : List (String × UInt64)) : Config :=
  tabulate fun field => (pairs.lookup field.name).getD (config.get field)

/-! ## Words for fields -/

/-- Every name is a field, and none is there twice. -/
structure Proper (pairs : List (String × UInt64)) : Prop where
  known : ∀ pair ∈ pairs, pair.1 ∈ fieldNames
  distinct : (pairs.map Prod.fst).Nodup

variable {pairs : List (String × UInt64)} {name : String} {value : UInt64}

theorem override_cons (config : Config) (field : Field) (value : UInt64)
    (absent : field.name ∉ pairs.map Prod.fst) :
    (config.set field value).override pairs = config.override ((field.name, value) :: pairs) := by
  refine ext_get fun other => ?_
  simp only [override, get_tabulate, get_set, List.lookup_cons]
  by_cases same : other = field
  · subst same
    simp [Table.lookup_eq_none absent]
  · have apart : (other.name == field.name) = false := by
      simpa using fun names => same (Field.name_injective names)
    simp [same, apart]

theorem Proper.of_cons {pair : String × UInt64} (proper : Proper (pair :: pairs)) :
    Proper pairs :=
  ⟨fun other member => proper.known other (List.mem_cons_of_mem _ member),
    (List.nodup_cons.mp proper.distinct).2⟩

theorem Proper.perm (proper : Proper pairs) {others : List (String × UInt64)}
    (same : pairs.Perm others) : Proper others :=
  ⟨fun pair member => proper.known pair (same.mem_iff.mpr member),
    (same.map Prod.fst).nodup_iff.mp proper.distinct⟩

theorem Proper.override_perm (proper : Proper pairs) {others : List (String × UInt64)}
    (same : pairs.Perm others) (config : Config) :
    config.override pairs = config.override others := by
  refine ext_get fun field => ?_
  have found : pairs.lookup field.name = others.lookup field.name := by
    ext value
    rw [Table.lookup_eq_some_iff proper.distinct,
      Table.lookup_eq_some_iff (proper.perm same).distinct,
      same.mem_iff]
  simp [override, found]

/-- If not every name is a field of its own, there is a first one that is not a field or was
there before. -/
theorem exists_of_not_proper (improper : ¬ Proper pairs) : ∃ early name value late,
    pairs = early ++ (name, value) :: late ∧ Proper early ∧
      (name ∉ fieldNames ∨ name ∈ early.map Prod.fst) := by
  induction pairs using List.reverseRecOn with
  | nil => exact absurd ⟨by simp, by simp⟩ improper
  | append_singleton early pair induction =>
      by_cases proper : Proper early
      · refine ⟨early, pair.1, pair.2, [], rfl, proper, ?_⟩
        by_contra fine
        rw [not_or, not_not] at fine
        refine improper ⟨?_, ?_⟩
        · rw [List.forall_mem_append, List.forall_mem_singleton]
          exact ⟨proper.known, fine.1⟩
        · rw [List.map_append, List.map_singleton, List.nodup_append]
          refine ⟨proper.distinct, by simp, fun name before other last => ?_⟩
          rintro rfl
          exact fine.2 (List.mem_singleton.mp last ▸ before)
      · obtain ⟨first, name, value, late, split, others⟩ := induction proper
        exact ⟨first, name, value, late ++ [pair], by simp [split], others⟩

theorem map_fst_zip_sublist (names : List String) (values : List UInt64) :
    ((names.zip values).map Prod.fst).Sublist names := by
  induction names generalizing values with
  | nil => simp
  | cons name names induction =>
      cases values with
      | nil => simp
      | cons value values => exact (induction values).cons_cons name

theorem proper_zip_fieldNames (values : List UInt64) : Proper (fieldNames.zip values) where
  known _ member := (map_fst_zip_sublist fieldNames values).subset (List.mem_map_of_mem member)
  distinct := nodup_fieldNames.sublist (map_fst_zip_sublist fieldNames values)

end Config
end LoadAtlas
