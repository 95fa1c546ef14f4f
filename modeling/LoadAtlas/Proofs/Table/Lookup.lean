import Std.Data.ExtTreeMap.Lemmas

/-!
# Lookups in lists of entries

In a list of entries with distinct keys a lookup finds the one entry that is there, wherever it
stands.  So the entries of a table may be listed in any order.
-/

namespace LoadAtlas

namespace Table

variable {Key Value : Type}

theorem nodup_map_fst_toList [Ord Key] [Std.TransOrd Key] (table : Std.ExtTreeMap Key Value) :
    (table.toList.map Prod.fst).Nodup := by
  rw [Std.ExtTreeMap.map_fst_toList_eq_keys]
  exact table.nodup_keys

variable [BEq Key] [LawfulBEq Key] {entries : List (Key × Value)} {key : Key} {value : Value}

theorem lookup_eq_none (absent : key ∉ entries.map Prod.fst) : entries.lookup key = none := by
  rw [List.lookup_eq_none_iff]
  intro entry member
  simpa using fun same : key = entry.1 => absent (same ▸ List.mem_map_of_mem member)

theorem lookup_eq_some_iff (distinct : (entries.map Prod.fst).Nodup) :
    entries.lookup key = some value ↔ (key, value) ∈ entries := by
  induction entries with
  | nil => simp
  | cons entry entries induction =>
      rw [List.map_cons, List.nodup_cons] at distinct
      obtain ⟨first, held⟩ := entry
      rw [List.lookup_cons, List.mem_cons, Prod.mk.injEq]
      by_cases same : key = first
      · subst same
        have once : (key, value) ∉ entries := fun again =>
          distinct.1 (List.mem_map.mpr ⟨_, again, rfl⟩)
        simp [once, eq_comm]
      · have apart : (key == first) = false := by simpa using same
        simpa [apart, same] using induction distinct.2

/-- Listed in any order, the entries of a table are found as in the table. -/
theorem lookup_eq_getElem? [Ord Key] [Std.TransOrd Key] [Std.LawfulEqOrd Key]
    {table : Std.ExtTreeMap Key Value} (listed : entries.Perm table.toList) (key : Key) :
    entries.lookup key = table[key]? := by
  have distinct : (entries.map Prod.fst).Nodup :=
    (listed.map Prod.fst).nodup_iff.mpr (nodup_map_fst_toList table)
  ext value
  rw [lookup_eq_some_iff distinct, listed.mem_iff,
    Std.ExtTreeMap.mem_toList_iff_getElem?_eq_some]

end Table

end LoadAtlas
