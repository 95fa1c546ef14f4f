import LoadAtlas.Forest.Refine
import LoadAtlas.Proofs.Bucket.Weight
import Mathlib.Data.List.Induction

/-!
# Grouping buckets

A split puts every bucket of a table into the group of the child that it falls into.  The
groups are what they should be: each holds exactly the buckets of its child, there is a group
for a child only if it has a bucket, and together they weigh what the table weighed.
-/

namespace LoadAtlas

namespace BucketTable

/-- Puts one bucket into the group of its child. -/
def group (parent : CellId) (groups : Std.ExtTreeMap CellId BucketTable)
    (entry : String × Bucket) : Std.ExtTreeMap CellId BucketTable :=
  let child := entry.2.location.childAt parent
  groups.insert child ((groups.getD child ∅).insert entry.1 entry.2)

theorem groupByChild_eq_foldl (buckets : BucketTable) (parent : CellId) :
    buckets.groupByChild parent = buckets.toList.foldl (group parent) ∅ :=
  rfl

/-- The groups hold some entries, each in the group of its child. -/
structure Grouped (parent : CellId) (entries : List (String × Bucket))
    (groups : Std.ExtTreeMap CellId BucketTable) : Prop where
  mem_iff : ∀ child : CellId,
    child ∈ groups ↔ ∃ entry ∈ entries, entry.2.location.childAt parent = child
  bucket_iff : ∀ (child : CellId) (key : String) (bucket : Bucket),
    (groups.getD child ∅)[key]? = some bucket ↔
      (key, bucket) ∈ entries ∧ bucket.location.childAt parent = child
  weigh : ∀ weight, Table.sum (fun _ (table : BucketTable) => table.weigh weight) groups =
    (entries.map fun entry => weight entry.1 * entry.2.count).sum

theorem grouped_nil (parent : CellId) : Grouped parent [] ∅ where
  mem_iff child := by simp
  bucket_iff child key bucket := by simp
  weigh weight := by simp

theorem weigh_insert_of_absent (weight : String → Nat) {buckets : BucketTable} {key : String}
    (absent : buckets[key]? = none) (bucket : Bucket) :
    weigh weight (buckets.insert key bucket) = buckets.weigh weight + weight key * bucket.count :=
  Table.sum_insert_of_absent (fun key (bucket : Bucket) => weight key * bucket.count) absent bucket

theorem Grouped.group {parent : CellId} {entries : List (String × Bucket)}
    {groups : Std.ExtTreeMap CellId BucketTable} (grouped : Grouped parent entries groups)
    {entry : String × Bucket} (fresh : entry.1 ∉ entries.map Prod.fst) :
    Grouped parent (entries ++ [entry]) (group parent groups entry) := by
  obtain ⟨key, bucket⟩ := entry
  have notEarlier : ∀ other : Bucket, (key, other) ∉ entries := fun other member =>
    fresh (List.mem_map.mpr ⟨(key, other), member, rfl⟩)
  have absent : (groups.getD (bucket.location.childAt parent) ∅)[key]? = none := by
    rw [Option.eq_none_iff_forall_ne_some]
    intro other present
    exact notEarlier other ((grouped.bucket_iff _ _ _).mp present).1
  refine ⟨?_, ?_, ?_⟩
  · intro child
    simp only [BucketTable.group, Std.ExtTreeMap.mem_insert, Std.LawfulEqOrd.compare_eq_iff_eq,
      grouped.mem_iff, List.mem_append, List.mem_singleton]
    constructor
    · rintro (rfl | ⟨entry, member, rfl⟩)
      · exact ⟨(key, bucket), .inr rfl, rfl⟩
      · exact ⟨entry, .inl member, rfl⟩
    · rintro ⟨entry, member | rfl, rfl⟩
      · exact .inr ⟨entry, member, rfl⟩
      · exact .inl rfl
  · intro child other found
    simp only [BucketTable.group, Std.ExtTreeMap.getD_insert, Std.LawfulEqOrd.compare_eq_iff_eq,
      List.mem_append, List.mem_singleton, Prod.mk.injEq]
    by_cases sameChild : bucket.location.childAt parent = child
    · subst sameChild
      rw [if_pos rfl, Std.ExtTreeMap.getElem?_insert]
      by_cases sameKey : key = other
      · subst sameKey
        simp only [Std.ReflCmp.compare_self, ↓reduceIte, Option.some.injEq, notEarlier, true_and,
          false_or]
        exact ⟨fun same => by simp [same], fun ⟨same, _⟩ => same.symm⟩
      · rw [if_neg (by simpa using sameKey), grouped.bucket_iff]
        simp [Ne.symm sameKey]
    · rw [if_neg sameChild, grouped.bucket_iff]
      refine and_congr_left fun falls => ⟨.inl, fun either => either.resolve_right ?_⟩
      rintro ⟨_, rfl⟩
      exact sameChild falls
  · intro weight
    have inserted := Table.sum_insert (fun _ (table : BucketTable) => table.weigh weight) groups
      (bucket.location.childAt parent)
      ((groups.getD (bucket.location.childAt parent) ∅).insert key bucket)
    have measured : Table.measureAt (fun _ (table : BucketTable) => table.weigh weight) groups
        (bucket.location.childAt parent) =
          (groups.getD (bucket.location.childAt parent) ∅).weigh weight := by
      rw [Std.ExtTreeMap.getD_eq_getD_getElem?]
      cases present : groups[bucket.location.childAt parent]? <;> simp [Table.measureAt, present]
    rw [weigh_insert_of_absent weight absent, measured, grouped.weigh] at inserted
    simp only [BucketTable.group, List.map_append, List.sum_append, List.map_cons, List.map_nil,
      List.sum_cons, List.sum_nil]
    omega

theorem grouped_foldl (parent : CellId) (entries : List (String × Bucket))
    (distinct : (entries.map Prod.fst).Nodup) :
    Grouped parent entries (entries.foldl (group parent) ∅) := by
  induction entries using List.reverseRecOn with
  | nil => exact grouped_nil parent
  | append_singleton entries entry induction =>
      rw [List.map_append, List.map_singleton, List.nodup_append] at distinct
      obtain ⟨earlier, _, apart⟩ := distinct
      rw [List.foldl_append, List.foldl_cons, List.foldl_nil]
      exact (induction earlier).group fun member => apart _ member _ (by simp) rfl

variable {buckets : BucketTable} {parent child : CellId}

theorem grouped_groupByChild (buckets : BucketTable) (parent : CellId) :
    Grouped parent buckets.toList (buckets.groupByChild parent) :=
  grouped_foldl parent buckets.toList (Table.nodup_map_fst_toList buckets)

theorem mem_groupByChild_iff : child ∈ buckets.groupByChild parent ↔
    ∃ (key : String) (bucket : Bucket),
      buckets[key]? = some bucket ∧ bucket.location.childAt parent = child := by
  rw [(grouped_groupByChild buckets parent).mem_iff]
  simp only [Prod.exists, Std.ExtTreeMap.mem_toList_iff_getElem?_eq_some]

/-- A group holds exactly the buckets that fall into its child. -/
theorem getElem?_of_groupByChild {table : BucketTable}
    (present : (buckets.groupByChild parent)[child]? = some table) (key : String)
    (bucket : Bucket) : table[key]? = some bucket ↔
      buckets[key]? = some bucket ∧ bucket.location.childAt parent = child := by
  have held := (grouped_groupByChild buckets parent).bucket_iff child key bucket
  rwa [Std.ExtTreeMap.getD_eq_getD_getElem?, present, Option.getD_some,
    Std.ExtTreeMap.mem_toList_iff_getElem?_eq_some] at held

/-- Grouping loses no request and makes up none. -/
theorem weigh_groupByChild (weight : String → Nat) (buckets : BucketTable) (parent : CellId) :
    Table.sum (fun _ (table : BucketTable) => table.weigh weight) (buckets.groupByChild parent) =
      buckets.weigh weight :=
  (grouped_groupByChild buckets parent).weigh weight

theorem Sound.of_groupByChild (sound : buckets.Sound) {table : BucketTable}
    (present : (buckets.groupByChild parent)[child]? = some table) : table.Sound := by
  intro key bucket held
  exact sound key bucket ((getElem?_of_groupByChild present key bucket).mp held).1

end BucketTable

namespace Tally

/-- A table becomes the tally that has it for its breakdown. -/
theorem ofTable_eq (buckets : BucketTable) : ofTable buckets = ⟨buckets.sum, buckets⟩ := by
  have total : (ofTable buckets).total = buckets.sum := by
    rw [ofTable, total_absorb]
    exact Nat.zero_add _
  have held : (ofTable buckets).buckets = buckets := by
    apply Std.ExtTreeMap.ext_getElem?
    intro key
    rw [ofTable, getElem?_absorb]
    exact Option.merge_none_left
  exact congrArg₂ Tally.mk total held

@[simp]
theorem buckets_ofTable (buckets : BucketTable) : (ofTable buckets).buckets = buckets := by
  rw [ofTable_eq]

theorem sound_ofTable {buckets : BucketTable} (sound : buckets.Sound) : (ofTable buckets).Sound :=
  sound_empty.absorb sound

end Tally

end LoadAtlas
