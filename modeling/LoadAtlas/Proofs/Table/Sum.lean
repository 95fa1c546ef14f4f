import LoadAtlas.Basic
import LoadAtlas.Proofs.Table.Lookup
import Mathlib.Algebra.Order.BigOperators.Group.List
import Mathlib.Algebra.Order.Group.Nat
import Mathlib.Data.List.Perm.Basic

/-!
# Sums over lists and tables

A sum over a list is told from one item and the rest.  A table with sorted keys is summed up by a measure of its entries.  Setting or erasing one
entry changes the sum by that entry alone, which is all that later proofs use about how a table
is kept.
-/

namespace LoadAtlas

section Lists

variable {Item : Type} {items : List Item} {item : Item} {index : Nat}

/-- A sum over a list is one of its items and all others. -/
theorem sum_map_eraseIdx (measure : Item → Nat) (found : items[index]? = some item) :
    measure item + ((items.eraseIdx index).map measure).sum = (items.map measure).sum := by
  obtain ⟨bound, rfl⟩ := List.getElem?_eq_some_iff.mp found
  simpa using ((List.getElem_cons_eraseIdx_perm bound).map measure).sum_eq

/-- One item of a list is exchanged for another one. -/
theorem sum_map_set (measure : Item → Nat) (found : items[index]? = some item) (other : Item) :
    ((items.set index other).map measure).sum + measure item =
      (items.map measure).sum + measure other := by
  obtain ⟨bound, _⟩ := List.getElem?_eq_some_iff.mp found
  have located : (items.set index other)[index]? = some other := List.getElem?_set_self bound
  have before := sum_map_eraseIdx measure found
  have after := sum_map_eraseIdx measure located
  rw [List.eraseIdx_set_eq] at after
  omega

end Lists

namespace Table

variable {Key Value : Type} [Ord Key] [Std.TransOrd Key]

/-- The sum of a measure over all entries of a table. -/
def sum (measure : Key → Value → Nat) (table : Std.ExtTreeMap Key Value) : Nat :=
  (table.toList.map fun entry => measure entry.1 entry.2).sum

/-- The measure of the entry with a key.  An entry that is not there counts nothing. -/
def measureAt (measure : Key → Value → Nat) (table : Std.ExtTreeMap Key Value) (key : Key) :
    Nat :=
  match table[key]? with
  | some value => measure key value
  | none => 0

@[simp]
theorem sum_empty (measure : Key → Value → Nat) :
    sum measure (∅ : Std.ExtTreeMap Key Value) = 0 := by
  simp [sum, Std.ExtTreeMap.toList_eq_nil_iff.mpr]

theorem sum_add (first second : Key → Value → Nat) (table : Std.ExtTreeMap Key Value) :
    sum (fun key value => first key value + second key value) table =
      sum first table + sum second table :=
  List.sum_map_add

theorem sum_map_ite_eq_countP {Entry : Type} (holds : Entry → Prop) [DecidablePred holds]
    (entries : List Entry) :
    (entries.map fun entry => if holds entry then 1 else 0).sum =
      entries.countP fun entry => holds entry := by
  induction entries with
  | nil => rfl
  | cons entry entries induction =>
      rw [List.map_cons, List.sum_cons, induction, List.countP_cons, Nat.add_comm]
      simp only [decide_eq_true_eq]

variable [Std.LawfulEqOrd Key]

theorem nodup_toList (table : Std.ExtTreeMap Key Value) : table.toList.Nodup :=
  table.distinct_keys_toList.imp fun distinct equal => distinct (by rw [equal]; simp)

theorem nodup_toList_set (set : Std.ExtTreeSet Key) : set.toList.Nodup :=
  set.distinct_toList.imp fun distinct equal => distinct (by rw [equal]; simp)

/-- The entries after an entry was set are that entry and all others. -/
theorem toList_insert_perm (table : Std.ExtTreeMap Key Value) (key : Key) (value : Value) :
    (table.insert key value).toList.Perm ((key, value) :: (table.erase key).toList) := by
  have absent : (key, value) ∉ (table.erase key).toList := by
    simp [Std.ExtTreeMap.mem_toList_iff_getElem?_eq_some]
  rw [List.perm_ext_iff_of_nodup (nodup_toList _)
    (List.nodup_cons.mpr ⟨absent, nodup_toList _⟩)]
  rintro ⟨other, found⟩
  by_cases same : key = other
  · subst other
    simp [Std.ExtTreeMap.mem_toList_iff_getElem?_eq_some, eq_comm]
  · simp [Std.ExtTreeMap.mem_toList_iff_getElem?_eq_some, Std.ExtTreeMap.getElem?_insert,
      Std.ExtTreeMap.getElem?_erase, same, Ne.symm same]

theorem toList_insert_empty (key : Key) (value : Value) :
    ((∅ : Std.ExtTreeMap Key Value).insert key value).toList = [(key, value)] := by
  have perm := toList_insert_perm (∅ : Std.ExtTreeMap Key Value) key value
  have nothing : (∅ : Std.ExtTreeMap Key Value).toList = [] := rfl
  simpa [nothing] using perm

/-- The entries of a table are any one of them and all others. -/
theorem toList_perm_erase {table : Std.ExtTreeMap Key Value} {key : Key} {value : Value}
    (present : table[key]? = some value) :
    table.toList.Perm ((key, value) :: (table.erase key).toList) := by
  have restored : table.insert key value = table := by
    apply Std.ExtTreeMap.ext_getElem?
    intro other
    by_cases same : key = other
    · subst other
      simp [present]
    · simp [Std.ExtTreeMap.getElem?_insert, same]
  have perm := toList_insert_perm table key value
  rwa [restored] at perm

theorem erase_eq_self {table : Std.ExtTreeMap Key Value} {key : Key}
    (absent : table[key]? = none) : table.erase key = table := by
  apply Std.ExtTreeMap.ext_getElem?
  intro other
  by_cases same : key = other
  · subst other
    simp [absent]
  · simp [Std.ExtTreeMap.getElem?_erase, same]

/-- Erasing an entry takes its measure off the sum. -/
theorem sum_erase (measure : Key → Value → Nat) (table : Std.ExtTreeMap Key Value) (key : Key) :
    sum measure (table.erase key) + measureAt measure table key = sum measure table := by
  cases present : table[key]? with
  | none => simp [measureAt, present, erase_eq_self present]
  | some value =>
      have perm := (toList_perm_erase present).map fun entry => measure entry.1 entry.2
      simp only [sum, measureAt, present, perm.sum_nat, List.map_cons, List.sum_cons]
      omega

/-- Setting an entry replaces the measure of the old entry by that of the new one. -/
theorem sum_insert (measure : Key → Value → Nat) (table : Std.ExtTreeMap Key Value) (key : Key)
    (value : Value) :
    sum measure (table.insert key value) + measureAt measure table key =
      sum measure table + measure key value := by
  have perm := (toList_insert_perm table key value).map fun entry => measure entry.1 entry.2
  have erased := sum_erase measure table key
  have inserted : sum measure (table.insert key value) =
      measure key value + sum measure (table.erase key) := by
    simp only [sum, perm.sum_nat, List.map_cons, List.sum_cons]
  omega

theorem sum_insert_of_absent (measure : Key → Value → Nat) {table : Std.ExtTreeMap Key Value}
    {key : Key} (absent : table[key]? = none) (value : Value) :
    sum measure (table.insert key value) = sum measure table + measure key value := by
  have inserted := sum_insert measure table key value
  simpa [measureAt, absent] using inserted

theorem sum_insert_of_present (measure : Key → Value → Nat) {table : Std.ExtTreeMap Key Value}
    {key : Key} {old : Value} (present : table[key]? = some old) (value : Value) :
    sum measure (table.insert key value) + measure key old =
      sum measure table + measure key value := by
  have inserted := sum_insert measure table key value
  simpa [measureAt, present] using inserted

/-- A sum over a table whose other entries count nothing is the measure of one entry. -/
theorem sum_eq_measureAt (measure : Key → Value → Nat) {table : Std.ExtTreeMap Key Value}
    (key : Key)
    (others : ∀ other value, table[other]? = some value → other ≠ key → measure other value = 0) :
    sum measure table = measureAt measure table key := by
  have rest : sum measure (table.erase key) = 0 := by
    apply List.sum_eq_zero
    intro amount member
    obtain ⟨⟨other, value⟩, entry, rfl⟩ := List.mem_map.mp member
    rw [Std.ExtTreeMap.mem_toList_iff_getElem?_eq_some, Std.ExtTreeMap.getElem?_erase] at entry
    by_cases same : key = other
    · simp [same] at entry
    · exact others other value (by simpa [same] using entry) (Ne.symm same)
  have erased := sum_erase measure table key
  omega

theorem measureAt_le_sum (measure : Key → Value → Nat) (table : Std.ExtTreeMap Key Value)
    (key : Key) : measureAt measure table key ≤ sum measure table := by
  have erased := sum_erase measure table key
  omega

theorem sum_eq_sum_keys (measure : Key → Value → Nat) (table : Std.ExtTreeMap Key Value) :
    sum measure table = (table.keys.map (measureAt measure table)).sum := by
  rw [sum, ← Std.ExtTreeMap.map_fst_toList_eq_keys, List.map_map]
  congr 1
  apply List.map_congr_left
  rintro ⟨key, value⟩ entry
  simp [measureAt, Std.ExtTreeMap.mem_toList_iff_getElem?_eq_some.mp entry]

theorem sum_congr {first second : Key → Value → Nat} {table : Std.ExtTreeMap Key Value}
    (same : ∀ key value, table[key]? = some value → first key value = second key value) :
    sum first table = sum second table := by
  rw [sum, sum]
  congr 1
  apply List.map_congr_left
  rintro ⟨key, value⟩ entry
  exact same key value (Std.ExtTreeMap.mem_toList_iff_getElem?_eq_some.mp entry)

theorem sum_pos_iff {measure : Key → Value → Nat} {table : Std.ExtTreeMap Key Value} :
    0 < sum measure table ↔ ∃ key value, table[key]? = some value ∧ 0 < measure key value := by
  constructor
  · intro positive
    by_contra nothing
    push Not at nothing
    have zero : sum measure table = sum (fun _ _ => 0) table :=
      sum_congr fun key value present => Nat.eq_zero_of_le_zero (nothing key value present)
    simp [sum] at zero positive
    omega
  · rintro ⟨key, value, present, positive⟩
    have bound := measureAt_le_sum measure table key
    simp only [measureAt, present] at bound
    omega

theorem sum_le_sum {first second : Key → Value → Nat} {table : Std.ExtTreeMap Key Value}
    (smaller : ∀ key value, table[key]? = some value → first key value ≤ second key value) :
    sum first table ≤ sum second table := by
  apply List.sum_le_sum
  rintro ⟨key, value⟩ entry
  exact smaller key value (Std.ExtTreeMap.mem_toList_iff_getElem?_eq_some.mp entry)

end Table

end LoadAtlas
