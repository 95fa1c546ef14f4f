import LoadAtlas.Proofs.Forest.Audit
import LoadAtlas.Proofs.Forest.Change

/-!
# Canonical forests

As long as no client was taken away, every cell of a forest holds clients, and every split cell
holds more than a leaf may keep.  If moreover no leaf is too full, the forest can be told from
the numbers of its clients: a cell is there if it holds clients and is a top cell or lies in a
crowded one, it is a leaf if it is not crowded or cannot be split, and a leaf has the buckets
that fall into it.  So two such forests with the same clients look the same, in whatever order
the clients came.  Only the order in which a cell lists its children still tells the order of
arrival, and no report shows it.
-/

namespace LoadAtlas

namespace Forest

/-- Every cell holds clients, and every split cell more than a leaf may keep. -/
structure Filled (splitThreshold : Nat) (forest : Forest) : Prop where
  populated : ∀ id ∈ forest.cells, 0 < forest.clientsInside id
  crowded : ∀ id, forest.isSplit id = true → splitThreshold < forest.clientsInside id

theorem filled_empty (splitThreshold : Nat) : empty.Filled splitThreshold where
  populated id member := by simp [empty] at member
  crowded id split := by simp [isSplit, empty] at split

/-- A forest that is as its clients make it. -/
structure Canonical (topLevel maxLevel splitThreshold : Nat) (forest : Forest) : Prop where
  wellFormed : forest.WellFormed topLevel maxLevel
  calm : forest.Calm splitThreshold maxLevel
  filled : forest.Filled splitThreshold

variable {topLevel maxLevel splitThreshold count : Nat} {before after forest : Forest}
  {id leaf child : CellId} {cell : Cell}

/-! ## More clients -/

theorem Filled.extended (filled : before.Filled splitThreshold)
    (extended : Extended before after leaf)
    (more : ∀ id, before.clientsInside id ≤ after.clientsInside id)
    (counts : 0 < after.clientsInside leaf) : after.Filled splitThreshold where
  populated id member := by
    rcases extended.mem_cells member with rfl | earlier
    · exact counts
    · exact (filled.populated id earlier).trans_le (more id)
  crowded id split := by
    rw [extended.isSplit_eq] at split
    exact (filled.crowded id split).trans_le (more id)

theorem Filled.divided (filled : before.Filled splitThreshold)
    (divided : Divided splitThreshold maxLevel before after count)
    (wellFormed : before.WellFormed topLevel maxLevel) (bounded : maxLevel ≤ CellId.finestLevel) :
    after.Filled splitThreshold where
  populated := divided.clientsInside_pos wellFormed bounded filled.populated
  crowded id split := by
    rw [(divided.kept wellFormed bounded).clientsInside]
    cases earlier : before.isSplit id with
    | true => exact filled.crowded id earlier
    | false => exact divided.lt_clientsInside wellFormed bounded split earlier

/-! ## The shape -/

theorem WellFormed.countOf_eq_of_held (wellFormed : forest.WellFormed topLevel maxLevel)
    {key : String} {bucket : Bucket} (present : forest.cells[leaf]? = some cell)
    (held : cell.tally.buckets[key]? = some bucket) : forest.countOf key = bucket.count := by
  rw [countOf, Table.sum_eq_measureAt _ leaf]
  · simp [Table.measureAt, present, BucketTable.countOf, held]
  · intro other found foundPresent different
    apply BucketTable.countOf_of_absent
    by_contra elsewhere
    obtain ⟨twin, inFound⟩ := Option.ne_none_iff_exists'.mp elsewhere
    exact different (wellFormed.cell_unique_of_key foundPresent inFound present held)

theorem exists_held_of_countOf_pos {key : String} (counts : 0 < forest.countOf key) :
    ∃ (leaf : CellId) (cell : Cell) (bucket : Bucket), forest.cells[leaf]? = some cell ∧
      cell.tally.buckets[key]? = some bucket := by
  obtain ⟨leaf, cell, present, positive⟩ := Table.sum_pos_iff.mp counts
  cases held : cell.tally.buckets[key]? with
  | none => simp [BucketTable.countOf_of_absent held] at positive
  | some bucket => exact ⟨leaf, cell, bucket, present, held⟩

theorem WellFormed.mem_children_iff (wellFormed : forest.WellFormed topLevel maxLevel)
    (present : forest.cells[id]? = some cell) : child ∈ cell.children ↔
      child ∈ forest.cells ∧ child.level = id.level + 1 ∧ id.contains child = true := by
  refine ⟨wellFormed.child present, fun ⟨member, level, inside⟩ => ?_⟩
  obtain ⟨found, childPresent⟩ := mem_cells_iff.mp member
  have aboveTop := (wellFormed.levels present).1
  obtain ⟨parent, parentPresent, listed⟩ := wellFormed.parent childPresent (by omega)
  have same : child.ancestor (child.level - 1) = id := by
    rw [show child.level - 1 = id.level by omega]
    exact CellId.ancestor_eq_of_contains (wellFormed.isCell present)
      (wellFormed.isCell childPresent) inside
  rw [same, present] at parentPresent
  rwa [Option.some.inj parentPresent]

namespace Canonical

section

variable (canonical : forest.Canonical topLevel maxLevel splitThreshold)

include canonical

theorem isLeaf_iff (present : forest.cells[id]? = some cell) : cell.isLeaf = true ↔
    forest.clientsInside id ≤ splitThreshold ∨ id.level = maxLevel := by
  constructor
  · intro isLeaf
    rw [canonical.wellFormed.clientsInside_leaf present isLeaf]
    by_contra full
    have levels := canonical.wellFormed.levels present
    exact canonical.calm id ⟨cell, present, isLeaf, by omega, by omega⟩
  · rintro (few | deepest)
    · by_contra split
      have crowded := canonical.filled.crowded id
        (isSplit_iff.mpr ⟨cell, present, by simpa using split⟩)
      omega
    · exact canonical.wellFormed.isLeaf_of_deepest present (by omega)

/-- A cell inside a leaf that may be split lies in no crowded one. -/
theorem clientsInside_le_of_leaf {location : Location} (present : forest.cells[leaf]? = some cell)
    (isLeaf : cell.isLeaf = true) (leafFalls : location.FallsInto leaf)
    (falls : location.FallsInto id) (finer : leaf.level ≤ id.level) (room : leaf.level < maxLevel) :
    forest.clientsInside id ≤ splitThreshold := by
  have inside := leafFalls.contains falls finer
  refine (clientsInside_le_of_contains (canonical.wellFormed.isCell present) inside).trans ?_
  exact ((canonical.isLeaf_iff present).mp isLeaf).resolve_right (Nat.ne_of_lt room)

/-- The cells are those that hold clients and are top cells or lie in a crowded cell. -/
theorem mem_cells_iff (bounded : maxLevel ≤ CellId.finestLevel) : id ∈ forest.cells ↔
    0 < forest.clientsInside id ∧ (id.level = topLevel ∨
      (topLevel < id.level ∧ id.level ≤ maxLevel) ∧
        splitThreshold < forest.clientsInside (id.ancestor (id.level - 1))) := by
  have wellFormed := canonical.wellFormed
  constructor
  · intro member
    obtain ⟨cell, present⟩ := Forest.mem_cells_iff.mp member
    have levels := wellFormed.levels present
    refine ⟨canonical.filled.populated id member, ?_⟩
    rcases Nat.eq_or_lt_of_le levels.1 with top | deep
    · exact .inl top.symm
    · obtain ⟨parent, parentPresent, listed⟩ := wellFormed.parent present deep
      exact .inr ⟨⟨deep, levels.2⟩, canonical.filled.crowded _ (isSplit_iff.mpr
        ⟨parent, parentPresent, Cell.isLeaf_eq_false_of_mem listed⟩)⟩
  · rintro ⟨holds, place⟩
    -- A cell with clients shares a location with a leaf, which lies around it or inside it.
    obtain ⟨leaf, found, key, bucket, leafPresent, held, falls⟩ :=
      wellFormed.clientsInside_pos_iff.mp holds
    have isLeaf := wellFormed.isLeaf_of_bucket leafPresent held
    have leafFalls := (wellFormed.sound leafPresent).placed key bucket held
    have leafLevels := wellFormed.levels leafPresent
    rcases Nat.lt_or_ge leaf.level id.level with finer | coarser
    · -- Inside a leaf no cell is crowded, so a cell strictly inside it has no place.
      obtain ⟨⟨_, deepest⟩, crowded⟩ := place.resolve_left (by omega)
      have parentLevel : (id.ancestor (id.level - 1)).level = id.level - 1 :=
        CellId.level_ancestor id (by omega)
      have parentFalls : bucket.location.FallsInto (id.ancestor (id.level - 1)) :=
        falls.of_contains (CellId.isCell_ancestor id (by omega))
          (CellId.contains_ancestor falls.isCell (Nat.sub_le _ _))
      have few := canonical.clientsInside_le_of_leaf leafPresent isLeaf leafFalls parentFalls
        (by omega) (by omega)
      omega
    · obtain ⟨above, abovePresent⟩ :=
        wellFormed.shaped.exists_ancestor leafPresent coarser (by omega)
      rw [falls.ancestor_eq leafFalls coarser] at abovePresent
      exact Forest.mem_cells_iff.mpr ⟨above, abovePresent⟩

theorem mem_active_iff : id ∈ forest.active ↔ id ∈ forest.cells ∧
    (forest.clientsInside id ≤ splitThreshold ∨ id.level = maxLevel) := by
  rw [canonical.wellFormed.active, Forest.mem_cells_iff, ← exists_and_right]
  exact exists_congr fun cell => and_congr_right canonical.isLeaf_iff

/-- A leaf holds the buckets that fall into it, each with all clients of its key. -/
theorem getElem?_leaf_iff (present : forest.cells[leaf]? = some cell)
    (isLeaf : cell.isLeaf = true) {key : String} {bucket : Bucket} :
    cell.tally.buckets[key]? = some bucket ↔
      bucket.Sound key ∧ bucket.location.FallsInto leaf ∧ bucket.count = forest.countOf key := by
  have wellFormed := canonical.wellFormed
  have sound := wellFormed.sound present
  constructor
  · intro held
    exact ⟨sound.tally.buckets key bucket held, sound.placed key bucket held,
      (wellFormed.countOf_eq_of_held present held).symm⟩
  · rintro ⟨bucketSound, falls, count⟩
    -- The clients of the key are in some leaf, and the location of the key makes it this one.
    obtain ⟨other, found, held, foundPresent, inFound⟩ :=
      exists_held_of_countOf_pos (count ▸ bucketSound.positive)
    have foundSound := wellFormed.sound foundPresent
    have sameLocation : held.location = bucket.location := by
      have located := (foundSound.tally.buckets key held inFound).located
      rw [bucketSound.located] at located
      exact (Except.ok.inj located).symm
    obtain rfl := wellFormed.leaf_unique present isLeaf foundPresent
      (wellFormed.isLeaf_of_bucket foundPresent inFound) falls
      (sameLocation ▸ foundSound.placed key held inFound)
    obtain rfl : cell = found := Option.some.inj (present.symm.trans foundPresent)
    have sameCount := wellFormed.countOf_eq_of_held present inFound
    rw [inFound]
    cases bucket
    cases held
    simp_all

end

end Canonical

end Forest

end LoadAtlas
