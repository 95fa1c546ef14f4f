import LoadAtlas.Proofs.Forest.Descent

/-!
# Splits of well-formed forests

A split turns a leaf into a cell with one child for every group of its buckets.  The children
are new, they lie where they should, and together they hold the buckets of the leaf.  So a
split keeps a forest well formed and loses no client.
-/

namespace LoadAtlas

namespace Forest

/-- The forest with a leaf for each of some groups. -/
def addGroups (forest : Forest) (groups : List (CellId × BucketTable)) : Forest :=
  groups.foldl (fun forest group => forest.insertLeaf group.1 (groupLeaf group.2)) forest

variable {topLevel maxLevel splitThreshold : Nat} {forest : Forest} {id : CellId} {cell : Cell}
  {weight : String → Nat}

theorem tops_addGroups (forest : Forest) (groups : List (CellId × BucketTable)) :
    (forest.addGroups groups).tops = forest.tops := by
  induction groups generalizing forest with
  | nil => rfl
  | cons group groups induction => exact induction (forest.insertLeaf group.1 (groupLeaf group.2))

theorem mem_active_addGroups {groups : List (CellId × BucketTable)} {other : CellId} :
    other ∈ (forest.addGroups groups).active ↔
      other ∈ groups.map Prod.fst ∨ other ∈ forest.active := by
  induction groups generalizing forest with
  | nil => simp [addGroups]
  | cons group groups induction =>
      have rest := @induction (forest.insertLeaf group.1 (groupLeaf group.2))
      rw [active_insertLeaf, Std.ExtTreeSet.mem_insert, Std.LawfulEqOrd.compare_eq_iff_eq] at rest
      rw [List.map_cons, List.mem_cons, or_comm (a := other = group.1), or_assoc,
        eq_comm (a := other)]
      exact rest

theorem getElem?_addGroups_of_not_mem {groups : List (CellId × BucketTable)} {other : CellId}
    (apart : other ∉ groups.map Prod.fst) :
    (forest.addGroups groups).cells[other]? = forest.cells[other]? := by
  induction groups generalizing forest with
  | nil => rfl
  | cons group groups induction =>
      rw [List.map_cons, List.mem_cons, not_or] at apart
      refine (@induction (forest.insertLeaf group.1 (groupLeaf group.2)) apart.2).trans ?_
      rw [cells_insertLeaf, Std.ExtTreeMap.getElem?_insert, if_neg]
      simpa using Ne.symm apart.1

theorem getElem?_addGroups_of_mem {groups : List (CellId × BucketTable)}
    (distinct : (groups.map Prod.fst).Nodup) {child : CellId} {table : BucketTable}
    (member : (child, table) ∈ groups) :
    (forest.addGroups groups).cells[child]? = some (groupLeaf table) := by
  induction groups generalizing forest with
  | nil => simp at member
  | cons group groups induction =>
      rw [List.map_cons, List.nodup_cons] at distinct
      rcases List.mem_cons.mp member with rfl | later
      · refine (getElem?_addGroups_of_not_mem distinct.1).trans ?_
        simp
      · exact induction distinct.2 later

theorem weigh_addGroups {groups : List (CellId × BucketTable)}
    (distinct : (groups.map Prod.fst).Nodup)
    (absent : ∀ group ∈ groups, forest.cells[group.1]? = none) :
    (forest.addGroups groups).weigh weight =
      forest.weigh weight + (groups.map fun group => group.2.weigh weight).sum := by
  induction groups generalizing forest with
  | nil => rfl
  | cons group groups induction =>
      rw [List.map_cons, List.nodup_cons] at distinct
      have stillAbsent : ∀ later ∈ groups,
          (forest.insertLeaf group.1 (groupLeaf group.2)).cells[later.1]? = none := by
        intro later member
        have different : group.1 ≠ later.1 := fun same =>
          distinct.1 (same ▸ List.mem_map_of_mem member)
        rw [cells_insertLeaf, Std.ExtTreeMap.getElem?_insert, if_neg (by simpa using different)]
        exact absent later (List.mem_cons_of_mem _ member)
      have rest := induction distinct.2 stillAbsent
      rw [weigh_insertLeaf weight (absent group List.mem_cons_self), groupLeaf,
        Tally.buckets_ofTable] at rest
      rw [List.map_cons, List.sum_cons, ← Nat.add_assoc]
      exact rest

/-! ## One split -/

/-- The forest after the split of a leaf. -/
def split (forest : Forest) (id : CellId) (cell : Cell) : Forest :=
  let groups := cell.tally.buckets.groupByChild id
  let emptied := forest.setCell id { children := groups.keys }
  { emptied with active := emptied.active.erase id }.addGroups groups.toList

/-- A cell after a split is the emptied cell, the leaf of a group, or a cell from before. -/
theorem origin_split {other : CellId} {found : Cell}
    (later : (forest.split id cell).cells[other]? = some found) :
    other = id ∧ found = { children := (cell.tally.buckets.groupByChild id).keys } ∨
      (∃ table : BucketTable, (cell.tally.buckets.groupByChild id)[other]? = some table ∧
        found = groupLeaf table) ∨
      other ≠ id ∧ forest.cells[other]? = some found := by
  cases held : (cell.tally.buckets.groupByChild id)[other]? with
  | some table =>
      rw [split, getElem?_addGroups_of_mem (Table.nodup_map_fst_toList _)
        (Std.ExtTreeMap.mem_toList_iff_getElem?_eq_some.mpr held)] at later
      exact .inr (.inl ⟨table, rfl, (Option.some.inj later).symm⟩)
  | none =>
      have notGroup : other ∉ (cell.tally.buckets.groupByChild id).toList.map Prod.fst := by
        rw [Std.ExtTreeMap.map_fst_toList_eq_keys, Std.ExtTreeMap.mem_keys,
          Std.ExtTreeMap.mem_iff_isSome_getElem?, held]
        exact Bool.false_ne_true
      rw [split, getElem?_addGroups_of_not_mem notGroup] at later
      by_cases same : other = id
      · subst same
        exact .inl ⟨rfl, by simpa [eq_comm] using later⟩
      · exact .inr (.inr ⟨same, by
          simpa [Std.ExtTreeMap.getElem?_insert, Ne.symm same] using later⟩)

namespace Shaped

section Split

variable (shaped : forest.Shaped topLevel maxLevel)
  (present : forest.cells[id]? = some cell) (isLeaf : cell.isLeaf = true)
  (placed : cell.tally.buckets.PlacedIn id) (room : id.level < maxLevel)
  (bounded : maxLevel ≤ CellId.finestLevel)

include shaped present isLeaf placed room bounded

/-- The children of a split lie inside the cell and are new. -/
theorem child_of_group {child : CellId}
    (member : child ∈ cell.tally.buckets.groupByChild id) :
    child.IsCell ∧ child.level = id.level + 1 ∧ id.contains child = true ∧
      forest.cells[child]? = none := by
  have finite : id.level < CellId.finestLevel := Nat.lt_of_lt_of_le room bounded
  have level := BucketTable.level_of_group finite member
  obtain ⟨key, bucket, held, rfl⟩ := BucketTable.mem_groupByChild_iff.mp member
  have falls := placed key bucket held
  have childFalls := bucket.location.fallsInto_childAt finite
  refine ⟨childFalls.isCell, level, falls.contains childFalls (by omega), ?_⟩
  refine shaped.childAt_absent present finite falls ?_
  rw [Cell.isLeaf_iff.mp isLeaf]
  exact List.not_mem_nil

theorem grown_split : Grown forest (forest.split id cell) id
    (cell.tally.buckets.groupByChild id).keys := by
  have distinct := Table.nodup_map_fst_toList (cell.tally.buckets.groupByChild id)
  have apart : id ∉ (cell.tally.buckets.groupByChild id).toList.map Prod.fst :=
    BucketTable.not_mem_groups (Nat.lt_of_lt_of_le room bounded)
  refine ⟨?_, ?_, ⟨cell, { children := (cell.tally.buckets.groupByChild id).keys }, present, ?_,
    ?_⟩, ?_, ?_, ?_⟩
  · rw [split, tops_addGroups]
    rfl
  · intro other
    simp only [split, mem_active_addGroups, Std.ExtTreeMap.map_fst_toList_eq_keys, active_setCell,
      Std.ExtTreeSet.mem_erase, ne_eq, Std.LawfulEqOrd.compare_eq_iff_eq, eq_comm (a := id)]
  · rw [split, getElem?_addGroups_of_not_mem apart]
    simp
  · rw [Cell.isLeaf_iff.mp isLeaf, List.nil_append]
  · intro child member
    rw [Std.ExtTreeMap.mem_keys] at member
    exact (shaped.child_of_group present isLeaf placed room bounded member).2.2.2
  · intro child member
    rw [Std.ExtTreeMap.mem_keys, Std.ExtTreeMap.mem_iff_isSome_getElem?,
      Option.isSome_iff_exists] at member
    obtain ⟨table, held⟩ := member
    exact ⟨groupLeaf table, getElem?_addGroups_of_mem distinct
      (Std.ExtTreeMap.mem_toList_iff_getElem?_eq_some.mpr held), rfl⟩
  · intro other different notGroup
    rw [← Std.ExtTreeMap.map_fst_toList_eq_keys] at notGroup
    rw [split, getElem?_addGroups_of_not_mem notGroup]
    simp [Std.ExtTreeMap.getElem?_insert, Ne.symm different]

/-- A split keeps the shape of a forest. -/
theorem split (nonempty : 0 < cell.tally.buckets.sum) :
    (forest.split id cell).Shaped topLevel maxLevel := by
  have inside : ∀ child ∈ (cell.tally.buckets.groupByChild id).keys,
      child.IsCell ∧ child.level = id.level + 1 ∧ id.contains child = true ∧
        forest.cells[child]? = none := fun child member =>
    shaped.child_of_group present isLeaf placed room bounded (Std.ExtTreeMap.mem_keys.mp member)
  exact shaped.grow (shaped.grown_split present isLeaf placed room bounded)
    (BucketTable.keys_groupByChild_ne_nil nonempty id) room
    (fun child member => (inside child member).1) fun child member => ⟨(inside child member).2.1, (inside child member).2.2.1⟩

end Split

end Shaped

namespace WellFormed

section Split

variable (wellFormed : forest.WellFormed topLevel maxLevel)
  (present : forest.cells[id]? = some cell) (isLeaf : cell.isLeaf = true)
  (room : id.level < maxLevel) (bounded : maxLevel ≤ CellId.finestLevel)

include wellFormed present isLeaf room bounded

theorem split (nonempty : 0 < cell.clientCount) :
    (forest.split id cell).WellFormed topLevel maxLevel := by
  have cellSound := wellFormed.sound present
  have grown := wellFormed.shaped.grown_split present isLeaf cellSound.placed room bounded
  have inside : ∀ child ∈ (cell.tally.buckets.groupByChild id).keys,
      child.IsCell ∧ child.level = id.level + 1 ∧ id.contains child = true ∧
        forest.cells[child]? = none := fun child member =>
    wellFormed.shaped.child_of_group present isLeaf cellSound.placed room bounded
      (Std.ExtTreeMap.mem_keys.mp member)
  refine wellFormed.grow grown
    (BucketTable.keys_groupByChild_ne_nil (cellSound.tally.balanced ▸ nonempty) id) room
    (fun child member => (inside child member).1)
    (fun child member => ⟨(inside child member).2.1, (inside child member).2.2.1⟩) ?_
  intro other found later _
  rcases origin_split later with
    ⟨_, rfl⟩ | ⟨table, held, rfl⟩ | ⟨different, earlier⟩
  · exact Cell.sound_of_no_tally Std.ExtTreeMap.nodup_keys
  · have tableSound := cellSound.tally.buckets.of_groupByChild held
    refine Cell.sound_leaf (Tally.sound_ofTable tableSound) fun key bucket inLeaf => ?_
    rw [Tally.buckets_ofTable] at inLeaf
    obtain ⟨_, rfl⟩ := (BucketTable.getElem?_of_groupByChild held key bucket).mp inLeaf
    exact bucket.location.fallsInto_childAt (by omega)
  · exact wellFormed.sound earlier

theorem weigh_split (weight : String → Nat) :
    (forest.split id cell).weigh weight = forest.weigh weight := by
  have cellSound := wellFormed.sound present
  let groups := cell.tally.buckets.groupByChild id
  let emptied := forest.setCell id { children := groups.keys }
  have absent : ∀ group ∈ groups.toList, emptied.cells[group.1]? = none := by
    intro group member
    obtain ⟨_, level, _, absent⟩ := wellFormed.shaped.child_of_group present isLeaf
      cellSound.placed room bounded (BucketTable.mem_groupByChild_of_mem_toList member)
    have different : id ≠ group.1 := by
      intro same
      rw [← same] at level
      omega
    rw [cells_setCell, Std.ExtTreeMap.getElem?_insert, if_neg (by simpa using different), absent]
  have grouped : (groups.toList.map fun group => group.2.weigh weight).sum =
      cell.tally.buckets.weigh weight :=
    BucketTable.weigh_groupByChild weight cell.tally.buckets id
  calc
    (forest.split id cell).weigh weight =
        emptied.weigh weight + (groups.toList.map fun group => group.2.weigh weight).sum :=
      weigh_addGroups (Table.nodup_map_fst_toList groups) absent
    _ = emptied.weigh weight + cell.tally.buckets.weigh weight := by rw [grouped]
    _ = forest.weigh weight := weigh_setCell weight present { children := groups.keys }

end Split

end WellFormed

end Forest

end LoadAtlas
