import LoadAtlas.Proofs.Bucket.Grouping
import LoadAtlas.Proofs.Cell.Nesting

/-!
# Buckets within a cell

The buckets of a table that fall into one cell, and the children of a cell that the buckets of a
table fall into.  Both are told here without any grouping; the groups of a split turn out to be
the buckets within each of these children.
-/

namespace LoadAtlas

namespace BucketTable

/-- The locations of a table all fall into one cell. -/
def PlacedIn (buckets : BucketTable) (id : CellId) : Prop :=
  ∀ (key : String) (bucket : Bucket), buckets[key]? = some bucket → bucket.location.FallsInto id

/-- The buckets that fall into a cell. -/
def within (buckets : BucketTable) (id : CellId) : BucketTable :=
  buckets.filter fun _ bucket => bucket.location.FallsInto id

/-- The children of a cell that buckets fall into, each once, in increasing order. -/
def childrenIn (buckets : BucketTable) (parent : CellId) : List CellId :=
  (Std.ExtTreeSet.ofList
    (buckets.toList.map fun entry => entry.2.location.childAt parent)).toList

variable {buckets : BucketTable} {id parent child : CellId}

theorem getElem?_within_iff {key : String} {bucket : Bucket} :
    (buckets.within id)[key]? = some bucket ↔
      buckets[key]? = some bucket ∧ bucket.location.FallsInto id := by
  rw [within, Std.ExtTreeMap.getElem?_filter', Option.filter_eq_some_iff, decide_eq_true_eq]

theorem placedIn_within (buckets : BucketTable) (id : CellId) : (buckets.within id).PlacedIn id :=
  fun _ _ held => (getElem?_within_iff.mp held).2

theorem within_eq_self (placed : buckets.PlacedIn id) : buckets.within id = buckets := by
  ext key bucket
  rw [getElem?_within_iff]
  exact and_iff_left_of_imp (placed key bucket)

/-- The buckets within a cell inside another one are within that one, too. -/
theorem within_within (isCell : parent.IsCell) (inside : parent.contains child = true) :
    (buckets.within parent).within child = buckets.within child := by
  ext key bucket
  rw [getElem?_within_iff, getElem?_within_iff, getElem?_within_iff, and_assoc]
  exact and_congr_right fun _ => and_iff_right_of_imp fun falls => falls.of_contains isCell inside

theorem mem_childrenIn_iff : child ∈ buckets.childrenIn parent ↔
    ∃ (key : String) (bucket : Bucket),
      buckets[key]? = some bucket ∧ bucket.location.childAt parent = child := by
  rw [childrenIn, Std.ExtTreeSet.mem_toList, Std.ExtTreeSet.mem_ofList, List.contains_iff_mem]
  simp only [List.mem_map, Prod.exists, Std.ExtTreeMap.mem_toList_iff_getElem?_eq_some]

theorem nodup_childrenIn (buckets : BucketTable) (parent : CellId) :
    (buckets.childrenIn parent).Nodup :=
  Table.nodup_toList_set _

/-! ## Groups of a split -/

theorem mem_groupByChild_of_mem_toList {group : CellId × BucketTable}
    (member : group ∈ (buckets.groupByChild parent).toList) :
    group.1 ∈ buckets.groupByChild parent := by
  rw [← Std.ExtTreeMap.mem_keys, ← Std.ExtTreeMap.map_fst_toList_eq_keys]
  exact List.mem_map_of_mem member

theorem level_of_group (room : parent.level < CellId.finestLevel)
    (member : child ∈ buckets.groupByChild parent) : child.level = parent.level + 1 := by
  obtain ⟨_, bucket, _, rfl⟩ := mem_groupByChild_iff.mp member
  exact bucket.location.level_childAt room

theorem not_mem_groups (room : parent.level < CellId.finestLevel) :
    parent ∉ (buckets.groupByChild parent).toList.map Prod.fst := by
  rw [Std.ExtTreeMap.map_fst_toList_eq_keys, Std.ExtTreeMap.mem_keys]
  intro member
  have level := level_of_group room member
  omega

theorem keys_groupByChild_ne_nil (nonempty : 0 < buckets.sum) (parent : CellId) :
    (buckets.groupByChild parent).keys ≠ [] := by
  intro noGroup
  have weighed := weigh_groupByChild (fun _ => 1) buckets parent
  rw [← sum_eq_weigh, Std.ExtTreeMap.keys_eq_nil_iff.mp noGroup, Table.sum_empty] at weighed
  exact absurd weighed.symm (Nat.ne_of_gt nonempty)

/-- The groups of a split are named after the children that the buckets fall into. -/
theorem keys_groupByChild (buckets : BucketTable) (parent : CellId) :
    (buckets.groupByChild parent).keys = buckets.childrenIn parent := by
  have members : ∀ child, child ∈ (buckets.groupByChild parent).keys ↔
      child ∈ buckets.childrenIn parent := fun child => by
    rw [Std.ExtTreeMap.mem_keys, mem_groupByChild_iff, mem_childrenIn_iff]
  apply List.Perm.eq_of_pairwise _ Std.ExtTreeMap.ordered_keys Std.ExtTreeSet.ordered_toList
  · exact (List.perm_ext_iff_of_nodup Std.ExtTreeMap.nodup_keys
      (nodup_childrenIn buckets parent)).mpr members
  · intro first second _ _ before after
    exact absurd after (Std.OrientedCmp.not_lt_of_lt before)

/-- A group of a split holds the buckets within its child. -/
theorem eq_within_of_groupByChild (room : parent.level < CellId.finestLevel) {table : BucketTable}
    (held : (buckets.groupByChild parent)[child]? = some table) : table = buckets.within child := by
  have level := level_of_group room
    (Std.ExtTreeMap.mem_iff_isSome_getElem?.mpr (Option.isSome_of_eq_some held))
  ext key bucket
  rw [getElem?_of_groupByChild held, getElem?_within_iff, Location.FallsInto, level]
  rfl

end BucketTable

end LoadAtlas
