import LoadAtlas.Atlas.Territory
import LoadAtlas.Proofs.Forest.Update

/-!
# Descents in well-formed forests

In a well-formed forest a descent finds the one leaf that a location falls into, and finds
nothing exactly if there is no such leaf.  Covering a location creates that leaf where it is
missing and changes nothing else.  So counting a client always ends in the leaf where a later
descent will look for it.
-/

namespace LoadAtlas

namespace Forest

/-- A leaf of a forest that a location falls into. -/
def LeafAt (forest : Forest) (location : Location) (leaf : CellId) : Prop :=
  location.FallsInto leaf ∧ ∃ cell : Cell, forest.cells[leaf]? = some cell ∧ cell.isLeaf = true

variable {topLevel maxLevel : Nat} {forest : Forest} {location : Location} {id leaf : CellId}
  {cell : Cell}

/-! ## Steps of a descent -/

section Steps

variable {steps : Nat}

theorem locateBelow_of_leaf (finest : CellId) (present : forest.cells[id]? = some cell)
    (isLeaf : cell.isLeaf = true) : forest.locateBelow finest (steps + 1) id = some id := by
  simp [locateBelow, present, isLeaf]

theorem locateBelow_of_listed (present : forest.cells[id]? = some cell)
    (listed : location.childAt id ∈ cell.children) :
    forest.locateBelow location.finestCell (steps + 1) id =
      forest.locateBelow location.finestCell steps (location.childAt id) := by
  have split := Cell.isLeaf_eq_false_of_mem listed
  simp only [Location.childAt, Location.cellAt] at listed ⊢
  simp [locateBelow, present, split, listed]

theorem locateBelow_of_unlisted (present : forest.cells[id]? = some cell)
    (split : cell.isLeaf = false) (unlisted : location.childAt id ∉ cell.children) :
    forest.locateBelow location.finestCell (steps + 1) id = none := by
  simp only [Location.childAt, Location.cellAt] at unlisted
  simp [locateBelow, present, split, unlisted]

theorem coverBelow_of_leaf (finest : CellId) (present : forest.cells[id]? = some cell)
    (isLeaf : cell.isLeaf = true) : forest.coverBelow finest (steps + 1) id = (forest, id) := by
  simp [coverBelow, present, isLeaf]

theorem coverBelow_eq_of_leaf (finest : CellId) (steps : Nat)
    (present : forest.cells[id]? = some cell) (isLeaf : cell.isLeaf = true) :
    forest.coverBelow finest steps id = (forest, id) := by
  cases steps with
  | zero => rfl
  | succ steps => exact coverBelow_of_leaf finest present isLeaf

theorem coverBelow_of_listed (present : forest.cells[id]? = some cell)
    (listed : location.childAt id ∈ cell.children) :
    forest.coverBelow location.finestCell (steps + 1) id =
      forest.coverBelow location.finestCell steps (location.childAt id) := by
  have split := Cell.isLeaf_eq_false_of_mem listed
  simp only [Location.childAt, Location.cellAt] at listed ⊢
  simp [coverBelow, present, split, listed]

/-- The forest in which a split cell lists one more child, which is a leaf without clients. -/
def withChild (forest : Forest) (id : CellId) (cell : Cell) (child : CellId) : Forest :=
  (forest.setCell id { cell with children := cell.children ++ [child] }).insertLeaf child Cell.empty

theorem coverBelow_of_unlisted (present : forest.cells[id]? = some cell)
    (split : cell.isLeaf = false) (unlisted : location.childAt id ∉ cell.children) :
    forest.coverBelow location.finestCell (steps + 1) id =
      (forest.withChild id cell (location.childAt id), location.childAt id) := by
  simp only [Location.childAt, Location.cellAt] at unlisted ⊢
  simp [coverBelow, present, split, unlisted, withChild]

end Steps

namespace WellFormed

theorem isLeaf_of_deepest (wellFormed : forest.WellFormed topLevel maxLevel)
    (present : forest.cells[id]? = some cell) (deepest : maxLevel ≤ id.level) :
    cell.isLeaf = true := by
  by_contra split
  have nonempty := Cell.isLeaf_eq_false_iff.mp (by simpa using split)
  obtain ⟨child, member⟩ := List.exists_mem_of_ne_nil _ nonempty
  obtain ⟨childMember, level, _⟩ := wellFormed.child present member
  obtain ⟨_, childPresent⟩ := mem_cells_iff.mp childMember
  have bounded := (wellFormed.levels childPresent).2
  omega

theorem leafAt_unique (wellFormed : forest.WellFormed topLevel maxLevel) {other : CellId}
    (first : forest.LeafAt location leaf) (second : forest.LeafAt location other) :
    leaf = other := by
  obtain ⟨firstFalls, _, firstPresent, firstLeaf⟩ := first
  obtain ⟨secondFalls, _, secondPresent, secondLeaf⟩ := second
  exact wellFormed.leaf_unique firstPresent firstLeaf secondPresent secondLeaf firstFalls
    secondFalls

/-- A split cell that a location falls into lists the child towards any leaf of the location. -/
theorem childAt_mem (wellFormed : forest.WellFormed topLevel maxLevel)
    (present : forest.cells[id]? = some cell) (split : cell.isLeaf = false)
    (falls : location.FallsInto id) (leafAt : forest.LeafAt location leaf) :
    location.childAt id ∈ cell.children := by
  obtain ⟨leafFalls, leafCell, leafPresent, isLeaf⟩ := leafAt
  have different : id ≠ leaf := by
    rintro rfl
    obtain rfl : cell = leafCell := by simpa [present] using leafPresent
    simp [split] at isLeaf
  rcases Nat.le_total id.level leaf.level with coarser | finer
  · obtain ⟨deeper, member⟩ := wellFormed.shaped.child_toward present leafPresent
      (falls.contains leafFalls coarser) different
    rwa [← leafFalls, location.ancestor_cellAt (by omega)] at member
  · exact absurd (wellFormed.shaped.eq_of_leaf_contains leafPresent isLeaf present
      (leafFalls.contains falls finer)).symm different

/-- A location falls into every child that it was led to. -/
theorem fallsInto_of_childAt_mem (wellFormed : forest.WellFormed topLevel maxLevel)
    (present : forest.cells[id]? = some cell) (member : location.childAt id ∈ cell.children) :
    location.FallsInto (location.childAt id) := by
  obtain ⟨_, level, _⟩ := wellFormed.child present member
  have bounded := (location.childAt id).level_le_finest
  exact location.fallsInto_childAt (by omega)

/-! ## Looking for a leaf -/

/-- A descent ends in a leaf that the location falls into. -/
theorem leafAt_of_locateBelow (wellFormed : forest.WellFormed topLevel maxLevel) {steps : Nat}
    (reach : maxLevel ≤ id.level + steps) (falls : location.FallsInto id)
    (found : forest.locateBelow location.finestCell steps id = some leaf) :
    forest.LeafAt location leaf := by
  induction steps generalizing id with
  | zero =>
      simp only [locateBelow] at found
      split at found
      · rename_i member
        obtain rfl : id = leaf := by simpa using found
        obtain ⟨cell, present⟩ := mem_cells_iff.mp (by simpa using member)
        exact ⟨falls, cell, present, wellFormed.isLeaf_of_deepest present reach⟩
      · simp at found
  | succ steps induction =>
      cases present : forest.cells[id]? with
      | none => simp [locateBelow, present] at found
      | some cell =>
          by_cases isLeaf : cell.isLeaf = true
          · obtain rfl : id = leaf := by
              simpa [locateBelow_of_leaf _ present isLeaf] using found
            exact ⟨falls, cell, present, isLeaf⟩
          · by_cases listed : location.childAt id ∈ cell.children
            · rw [locateBelow_of_listed present listed] at found
              have level := (wellFormed.child present listed).2.1
              exact induction (by omega) (wellFormed.fallsInto_of_childAt_mem present listed) found
            · simp [locateBelow_of_unlisted present (by simpa using isLeaf) listed] at found

/-- A descent that starts at a cell of the forest finds the leaf of the location. -/
theorem locateBelow_of_leafAt (wellFormed : forest.WellFormed topLevel maxLevel)
    (leafAt : forest.LeafAt location leaf) {steps : Nat}
    (reach : maxLevel ≤ id.level + steps) (falls : location.FallsInto id)
    (present : forest.cells[id]? = some cell) :
    forest.locateBelow location.finestCell steps id = some leaf := by
  induction steps generalizing id cell with
  | zero =>
      have isLeaf := wellFormed.isLeaf_of_deepest present reach
      obtain rfl := wellFormed.leafAt_unique ⟨falls, cell, present, isLeaf⟩ leafAt
      simp [locateBelow, mem_cells_iff.mpr ⟨cell, present⟩]
  | succ steps induction =>
      by_cases isLeaf : cell.isLeaf = true
      · rw [locateBelow_of_leaf _ present isLeaf,
          wellFormed.leafAt_unique ⟨falls, cell, present, isLeaf⟩ leafAt]
      · have listed := wellFormed.childAt_mem present (by simpa using isLeaf) falls leafAt
        obtain ⟨childMember, level, _⟩ := wellFormed.child present listed
        obtain ⟨childCell, childPresent⟩ := mem_cells_iff.mp childMember
        rw [locateBelow_of_listed present listed]
        exact induction (by omega) (wellFormed.fallsInto_of_childAt_mem present listed) childPresent

/-- Looking for a location finds its leaf, and nothing else. -/
theorem locate?_eq_some_iff (wellFormed : forest.WellFormed topLevel maxLevel)
    (ordered : topLevel ≤ maxLevel) (bounded : maxLevel ≤ CellId.finestLevel) :
    forest.locate? location topLevel maxLevel = some leaf ↔ forest.LeafAt location leaf := by
  have topBounded := Nat.le_trans ordered bounded
  have topLevelEq : (location.cellAt topLevel).level = topLevel :=
    location.level_cellAt topBounded
  have reach : maxLevel ≤ (location.cellAt topLevel).level + (maxLevel - topLevel) := by omega
  have falls := location.fallsInto_cellAt topBounded
  constructor
  · exact wellFormed.leafAt_of_locateBelow reach falls
  · intro leafAt
    obtain ⟨leafFalls, leafCell, leafPresent, isLeaf⟩ := id leafAt
    have level := (wellFormed.levels leafPresent).1
    obtain ⟨top, topPresent⟩ :=
      wellFormed.shaped.exists_ancestor leafPresent level (Nat.le_refl topLevel)
    rw [← leafFalls, location.ancestor_cellAt level] at topPresent
    exact wellFormed.locateBelow_of_leafAt leafAt reach falls topPresent

theorem locate?_eq_none_iff (wellFormed : forest.WellFormed topLevel maxLevel)
    (ordered : topLevel ≤ maxLevel) (bounded : maxLevel ≤ CellId.finestLevel) :
    forest.locate? location topLevel maxLevel = none ↔ ∀ leaf, ¬ forest.LeafAt location leaf := by
  rw [Option.eq_none_iff_forall_ne_some]
  exact forall_congr' fun leaf =>
    not_congr (wellFormed.locate?_eq_some_iff ordered bounded)

end WellFormed

/-! ## Covering a location -/

theorem getElem?_withChild (forest : Forest) (id : CellId) (cell : Cell) (child other : CellId) :
    (forest.withChild id cell child).cells[other]? =
      if child = other then some Cell.empty
      else if id = other then some { cell with children := cell.children ++ [child] }
      else forest.cells[other]? := by
  simp [withChild, Std.ExtTreeMap.getElem?_insert]

theorem weigh_withChild (weight : String → Nat) {child : CellId}
    (present : forest.cells[id]? = some cell) (absent : forest.cells[child]? = none) :
    (forest.withChild id cell child).weigh weight = forest.weigh weight := by
  have different : id ≠ child := by
    rintro rfl
    simp [present] at absent
  have changed := weigh_setCell weight present
    { cell with children := cell.children ++ [child] }
  have stillAbsent : (forest.setCell id { cell with children := cell.children ++ [child] }).cells[
      child]? = none := by
    rw [cells_setCell, Std.ExtTreeMap.getElem?_insert, if_neg (by simpa using different), absent]
  rw [withChild, weigh_insertLeaf weight stillAbsent]
  simp only [Cell.empty, BucketTable.weigh_empty] at changed ⊢
  omega

/-- The child that a location is led to from a split cell is there only if it is listed. -/
theorem Shaped.childAt_absent (shaped : forest.Shaped topLevel maxLevel)
    (present : forest.cells[id]? = some cell) (room : id.level < CellId.finestLevel)
    (falls : location.FallsInto id) (unlisted : location.childAt id ∉ cell.children) :
    forest.cells[location.childAt id]? = none := by
  have level : (location.childAt id).level = id.level + 1 := location.level_childAt room
  have childFalls := location.fallsInto_childAt room
  by_contra isThere
  obtain ⟨childCell, childPresent⟩ := Option.ne_none_iff_exists'.mp isThere
  have different : id ≠ location.childAt id := by
    intro same
    rw [← same] at level
    omega
  obtain ⟨_, member⟩ := shaped.child_toward present childPresent
    (falls.contains childFalls (by omega)) different
  rw [← level, childFalls.isCell] at member
  exact unlisted member

namespace WellFormed

theorem withChild (wellFormed : forest.WellFormed topLevel maxLevel)
    (present : forest.cells[id]? = some cell) (split : cell.isLeaf = false)
    (room : id.level < maxLevel) (bounded : maxLevel ≤ CellId.finestLevel)
    (falls : location.FallsInto id) (unlisted : location.childAt id ∉ cell.children) :
    (forest.withChild id cell (location.childAt id)).WellFormed topLevel maxLevel := by
  have finite : id.level < CellId.finestLevel := Nat.lt_of_lt_of_le room bounded
  have level : (location.childAt id).level = id.level + 1 := location.level_childAt finite
  have childFalls := location.fallsInto_childAt finite
  have absent := wellFormed.shaped.childAt_absent present finite falls unlisted
  have different : location.childAt id ≠ id := by
    intro same
    rw [same] at level
    omega
  have idNotActive : id ∉ forest.active := by
    rw [wellFormed.active]
    rintro ⟨found, foundPresent, isLeaf⟩
    obtain rfl : cell = found := by simpa [present] using foundPresent
    simp [split] at isLeaf
  have grown : Grown forest (forest.withChild id cell (location.childAt id)) id
      [location.childAt id] := by
    refine ⟨rfl, ?_, ⟨cell, { cell with children := cell.children ++ [location.childAt id] },
      present, ?_, rfl⟩, by simpa using absent, by simp [getElem?_withChild], ?_⟩
    · intro other
      simp only [Forest.withChild, active_insertLeaf, active_setCell, Std.ExtTreeSet.mem_insert,
        Std.LawfulEqOrd.compare_eq_iff_eq, List.mem_singleton, eq_comm (a := other)]
      refine or_congr_right ⟨fun active => ⟨?_, active⟩, And.right⟩
      rintro rfl
      exact idNotActive active
    · rw [getElem?_withChild, if_neg different, if_pos rfl]
    · intro other notId notChild
      rw [List.mem_singleton] at notChild
      rw [getElem?_withChild, if_neg (Ne.symm notChild), if_neg (Ne.symm notId)]
  refine wellFormed.grow grown (by simp) room (by simpa using childFalls.isCell)
    (by simpa using ⟨level, falls.contains childFalls (by omega)⟩) ?_
  intro other found foundPresent either
  have before := wellFormed.sound present
  rw [getElem?_withChild] at foundPresent
  by_cases isChild : location.childAt id = other
  · obtain rfl : Cell.empty = found := by simpa [isChild] using foundPresent
    exact Cell.sound_empty other
  · obtain rfl : other = id := by
      simpa [Ne.symm isChild] using either
    obtain rfl : { cell with children := cell.children ++ [location.childAt other] } = found := by
      simpa [isChild] using foundPresent
    refine ⟨List.nodup_append.mpr ⟨before.nodup, by simp, ?_⟩, fun _ => before.split split,
      before.tally, before.placed⟩
    intro listed member fresh isFresh
    rintro rfl
    exact unlisted (List.mem_singleton.mp isFresh ▸ member)

end WellFormed

theorem cover_of_present {topLevel maxLevel : Nat} {top : Cell} {location : Location}
    (present : forest.cells[location.cellAt topLevel]? = some top) :
    forest.cover location topLevel maxLevel =
      forest.coverBelow location.finestCell (maxLevel - topLevel) (location.cellAt topLevel) := by
  have member : location.cellAt topLevel ∈ forest.cells := mem_cells_iff.mpr ⟨top, present⟩
  simp only [Location.cellAt] at member ⊢
  simp [Forest.cover, member]

theorem cover_of_absent {topLevel maxLevel : Nat} {location : Location}
    (absent : forest.cells[location.cellAt topLevel]? = none) :
    forest.cover location topLevel maxLevel =
      (forest.withTop (location.cellAt topLevel)).coverBelow location.finestCell
        (maxLevel - topLevel) (location.cellAt topLevel) := by
  have notMember : location.cellAt topLevel ∉ forest.cells := by
    rw [mem_cells_iff]
    simp [absent]
  simp only [Location.cellAt] at notMember ⊢
  simp [Forest.cover, Forest.withTop, notMember]

/-- What covering a location leaves behind: a well-formed forest with the same clients and a
leaf at the location. -/
structure Covered (topLevel maxLevel : Nat) (location : Location) (before : Forest)
    (result : Forest × CellId) : Prop where
  kept : Kept topLevel maxLevel before result.1
  leafAt : result.1.LeafAt location result.2

namespace WellFormed

theorem coverBelow (wellFormed : forest.WellFormed topLevel maxLevel)
    (bounded : maxLevel ≤ CellId.finestLevel) {steps : Nat}
    (reach : id.level + steps = maxLevel) (falls : location.FallsInto id)
    (present : forest.cells[id]? = some cell) :
    Covered topLevel maxLevel location forest
      (forest.coverBelow location.finestCell steps id) := by
  induction steps generalizing id cell with
  | zero =>
      have isLeaf := wellFormed.isLeaf_of_deepest present (by omega)
      exact ⟨.refl wellFormed, falls, cell, present, isLeaf⟩
  | succ steps induction =>
      by_cases isLeaf : cell.isLeaf = true
      · rw [coverBelow_of_leaf _ present isLeaf]
        exact ⟨.refl wellFormed, falls, cell, present, isLeaf⟩
      · have split : cell.isLeaf = false := by simpa using isLeaf
        by_cases listed : location.childAt id ∈ cell.children
        · obtain ⟨childMember, level, _⟩ := wellFormed.child present listed
          obtain ⟨childCell, childPresent⟩ := mem_cells_iff.mp childMember
          rw [coverBelow_of_listed present listed]
          exact induction (by omega) (wellFormed.fallsInto_of_childAt_mem present listed)
            childPresent
        · have room : id.level < CellId.finestLevel := by omega
          have absent := wellFormed.shaped.childAt_absent present room falls listed
          rw [coverBelow_of_unlisted present split listed]
          refine ⟨⟨wellFormed.withChild present split (by omega) bounded falls listed,
            fun weight => weigh_withChild weight present absent⟩,
            location.fallsInto_childAt room, Cell.empty, ?_, rfl⟩
          rw [getElem?_withChild, if_pos rfl]

theorem cover (wellFormed : forest.WellFormed topLevel maxLevel) (ordered : topLevel ≤ maxLevel)
    (bounded : maxLevel ≤ CellId.finestLevel) (location : Location) :
    Covered topLevel maxLevel location forest (forest.cover location topLevel maxLevel) := by
  have topBounded := Nat.le_trans ordered bounded
  have level : (location.cellAt topLevel).level = topLevel := location.level_cellAt topBounded
  have falls := location.fallsInto_cellAt topBounded
  have reach : (location.cellAt topLevel).level + (maxLevel - topLevel) = maxLevel := by omega
  cases present : forest.cells[location.cellAt topLevel]? with
  | some top =>
      rw [cover_of_present present]
      exact wellFormed.coverBelow bounded reach falls present
  | none =>
      have kept : Kept topLevel maxLevel forest (forest.withTop (location.cellAt topLevel)) :=
        ⟨wellFormed.withTop present (location.isCell_cellAt topBounded) level ordered,
          fun weight => weigh_insertLeaf weight present Cell.empty⟩
      have created := getElem?_withTop forest (location.cellAt topLevel) (location.cellAt topLevel)
      rw [if_pos rfl] at created
      have covered := kept.wellFormed.coverBelow bounded reach falls created
      rw [cover_of_absent present]
      exact ⟨kept.trans covered.kept, covered.leafAt⟩

end WellFormed

/-! ## Covering a location again -/

theorem coverBelow_of_locateBelow {steps : Nat}
    (found : forest.locateBelow location.finestCell steps id = some leaf) :
    forest.coverBelow location.finestCell steps id = (forest, leaf) := by
  induction steps generalizing id with
  | zero =>
      rw [locateBelow, Option.ite_none_right_eq_some] at found
      rw [Forest.coverBelow, Option.some.inj found.2]
  | succ steps induction =>
      cases present : forest.cells[id]? with
      | none => simp [locateBelow, present] at found
      | some cell =>
          cases isLeaf : cell.isLeaf with
          | true =>
              rw [locateBelow_of_leaf _ present isLeaf] at found
              rw [coverBelow_of_leaf _ present isLeaf, Option.some.inj found]
          | false =>
              by_cases listed : location.childAt id ∈ cell.children
              · rw [locateBelow_of_listed present listed] at found
                rw [coverBelow_of_listed present listed]
                exact induction found
              · rw [locateBelow_of_unlisted present isLeaf listed] at found
                exact absurd found (Option.some_ne_none leaf).symm

/-- Where the location has a leaf, covering it changes nothing. -/
theorem cover_of_locate? {topLevel maxLevel : Nat}
    (found : forest.locate? location topLevel maxLevel = some leaf) :
    forest.cover location topLevel maxLevel = (forest, leaf) := by
  cases present : forest.cells[location.cellAt topLevel]? with
  | none =>
      have missing : location.finestCell.ancestor topLevel ∉ forest.cells := by
        rw [mem_cells_iff]
        rintro ⟨top, topPresent⟩
        exact absurd (present.symm.trans topPresent) (Option.some_ne_none top).symm
      unfold locate? at found
      cases steps : maxLevel - topLevel <;> simp_all [locateBelow]
  | some top =>
      rw [cover_of_present present]
      exact coverBelow_of_locateBelow found

end Forest

end LoadAtlas
