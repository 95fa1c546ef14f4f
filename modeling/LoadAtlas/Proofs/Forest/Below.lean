import LoadAtlas.Proofs.Forest.Order

/-!
# Clients below a cell

What a cell answers for is what the leaves at and below it hold: their clients and their
buckets.  A merge moves clients upwards but changes this for no cell that is still there
afterwards, so the totals that decide over the merges of a sweep can be read off the forest as
it was before the sweep.
-/

namespace LoadAtlas

namespace Forest

/-- The number of clients that a cell counts for a cell around it. -/
def countInside (outer id : CellId) (cell : Cell) : Nat :=
  if cell.isLeaf ∧ outer.contains id then cell.clientCount else 0

/-- The number of clients in the leaves at and below a cell. -/
def clientsBelow (forest : Forest) (id : CellId) : Nat :=
  Table.sum (countInside id) forest.cells

/-- A bucket of a leaf at or below a cell. -/
def BucketBelow (forest : Forest) (id : CellId) (key : String) (bucket : Bucket) : Prop :=
  ∃ (leaf : CellId) (cell : Cell), forest.cells[leaf]? = some cell ∧ cell.isLeaf = true ∧
    id.contains leaf = true ∧ cell.tally.buckets[key]? = some bucket

variable {topLevel maxLevel : Nat} {forest : Forest} {id other : CellId} {cell : Cell}

namespace WellFormed

section Below

variable (wellFormed : forest.WellFormed topLevel maxLevel)

include wellFormed

theorem clientsBelow_leaf (present : forest.cells[id]? = some cell) (isLeaf : cell.isLeaf = true) :
    forest.clientsBelow id = cell.clientCount := by
  rw [clientsBelow, Table.sum_eq_measureAt _ id]
  · simp [Table.measureAt, present, countInside, isLeaf,
      CellId.contains_self (wellFormed.isCell present)]
  · intro other found foundPresent different
    rw [countInside, if_neg]
    rintro ⟨_, inside⟩
    exact different (wellFormed.shaped.eq_of_leaf_contains present isLeaf foundPresent inside).symm

theorem clientsBelow_le (outer : id ∈ forest.cells) (inner : other ∈ forest.cells)
    (inside : id.contains other = true) : forest.clientsBelow other ≤ forest.clientsBelow id := by
  apply Table.sum_le_sum
  intro leaf found present
  by_cases below : found.isLeaf = true ∧ other.contains leaf = true
  · have alsoBelow : id.contains leaf = true :=
      CellId.contains_trans (wellFormed.isCell_of_mem outer) (wellFormed.isCell_of_mem inner)
        (wellFormed.isCell present) inside below.2
    rw [countInside, countInside, if_pos below, if_pos ⟨below.1, alsoBelow⟩]
  · rw [countInside, if_neg below]
    exact Nat.zero_le _

theorem bucketBelow_leaf_iff (present : forest.cells[id]? = some cell)
    (isLeaf : cell.isLeaf = true) {key : String} {bucket : Bucket} :
    forest.BucketBelow id key bucket ↔ cell.tally.buckets[key]? = some bucket := by
  constructor
  · rintro ⟨leaf, found, foundPresent, _, inside, held⟩
    obtain rfl := wellFormed.shaped.eq_of_leaf_contains present isLeaf foundPresent inside
    obtain rfl : cell = found := by simpa [present] using foundPresent
    exact held
  · intro held
    exact ⟨id, cell, present, isLeaf, CellId.contains_self (wellFormed.isCell present), held⟩

end Below

section Collapse

variable {leaves : List (CellId × Cell)} (wellFormed : forest.WellFormed topLevel maxLevel)
  (present : forest.cells[id]? = some cell) (areLeaves : Leaves forest cell leaves)

include wellFormed present areLeaves

theorem mem_collapse_iff : other ∈ (forest.collapse id cell leaves).cells ↔
    other ∈ forest.cells ∧ other ∉ cell.children :=
  (wellFormed.shrunk_collapse present areLeaves).mem_cells_iff

/-- A cell that is still there lies around a merged child only if it lies around the cell. -/
theorem contains_leaf_iff (remains : other ∈ (forest.collapse id cell leaves).cells)
    {leaf : CellId × Cell} (member : leaf ∈ leaves) :
    other.contains leaf.1 = true ↔ other.contains id = true := by
  obtain ⟨there, notChild⟩ := (wellFormed.mem_collapse_iff present areLeaves).mp remains
  have otherIsCell := wellFormed.isCell_of_mem there
  have idIsCell := wellFormed.isCell present
  have leafIsCell := wellFormed.isCell (areLeaves.present leaf member)
  obtain ⟨level, inside⟩ := wellFormed.inside_of_leaf present areLeaves member
  constructor
  · intro around
    have different : other ≠ leaf.1 := by
      rintro rfl
      exact notChild (areLeaves.names ▸ List.mem_map_of_mem member)
    have coarser := CellId.level_lt_of_contains_of_ne otherIsCell leafIsCell around different
    exact CellId.contains_of_common otherIsCell idIsCell leafIsCell around inside (by omega)
  · intro around
    exact CellId.contains_trans otherIsCell idIsCell leafIsCell around inside

theorem total_gather : (gather cell.tally leaves).total =
    cell.clientCount + (leaves.map fun leaf => leaf.2.clientCount).sum :=
  Forest.total_gather (wellFormed.sound present).tally fun leaf member =>
    (wellFormed.sound (areLeaves.present leaf member)).tally

/-- A merge changes the clients below no cell that is still there. -/
theorem clientsBelow_collapse (remains : other ∈ (forest.collapse id cell leaves).cells) :
    (forest.collapse id cell leaves).clientsBelow other = forest.clientsBelow other := by
  have exchanged := wellFormed.sum_collapse present areLeaves (countInside other)
  have gathered := wellFormed.total_gather present areLeaves
  have ofLeaf : ∀ leaf ∈ leaves, countInside other leaf.1 leaf.2 =
      if other.contains id = true then leaf.2.clientCount else 0 := by
    intro leaf member
    simp only [countInside, areLeaves.isLeaf leaf member, true_and,
      wellFormed.contains_leaf_iff present areLeaves remains member]
  rw [List.map_congr_left ofLeaf] at exchanged
  rw [clientsBelow, clientsBelow]
  by_cases around : other.contains id = true
  · have ofMerged : countInside other id { tally := gather cell.tally leaves } =
        (gather cell.tally leaves).total := by
      simp [countInside, around, Cell.isLeaf, Cell.clientCount]
    have ofCell : countInside other id cell = cell.clientCount := by
      by_cases isLeaf : cell.isLeaf = true
      · simp [countInside, around, isLeaf]
      · have empty := (wellFormed.sound present).split (by simpa using isLeaf)
        simp [countInside, isLeaf, Cell.clientCount, empty, Tally.empty]
    simp only [around, if_true] at exchanged
    omega
  · have outside : ∀ cell : Cell, countInside other id cell = 0 := by
      intro cell
      simp [countInside, around]
    have noLeaf : (leaves.map fun leaf => if other.contains id = true then leaf.2.clientCount
        else 0).sum = 0 := by
      simp [around]
    simp only [outside] at exchanged
    omega

/-- The clients below a split cell above leaves are the clients of these leaves. -/
theorem sum_leaves (split : cell.isLeaf = false) :
    (leaves.map fun leaf => leaf.2.clientCount).sum = forest.clientsBelow id := by
  have shrunk := wellFormed.shrunk_collapse present areLeaves
  have remains : id ∈ (forest.collapse id cell leaves).cells :=
    mem_cells_iff.mpr ⟨_, shrunk.later⟩
  have kept := wellFormed.clientsBelow_collapse present areLeaves remains
  rw [(wellFormed.collapse present areLeaves).clientsBelow_leaf shrunk.later rfl,
    Cell.clientCount, wellFormed.total_gather present areLeaves] at kept
  have empty := (wellFormed.sound present).split split
  simpa [Cell.clientCount, empty, Tally.empty] using kept

/-- A merge changes the buckets below no cell that is still there. -/
theorem bucketBelow_collapse_iff (remains : other ∈ (forest.collapse id cell leaves).cells)
    {key : String} {bucket : Bucket} :
    (forest.collapse id cell leaves).BucketBelow other key bucket ↔
      forest.BucketBelow other key bucket := by
  have shrunk := wellFormed.shrunk_collapse present areLeaves
  have gathered := wellFormed.getElem?_collapse present areLeaves key bucket
  constructor
  · rintro ⟨leaf, found, foundPresent, isLeaf, inside, held⟩
    by_cases same : leaf = id
    · subst same
      obtain rfl : { tally := gather cell.tally leaves } = found := by
        simpa [shrunk.later] using foundPresent
      rcases gathered.mp held with own | ⟨child, member, inChild⟩
      · exact ⟨leaf, cell, present, wellFormed.isLeaf_of_bucket present own, inside, own⟩
      · exact ⟨child.1, child.2, areLeaves.present child member, areLeaves.isLeaf child member,
          (wellFormed.contains_leaf_iff present areLeaves remains member).mpr inside, inChild⟩
    · have notChild : leaf ∉ cell.children := fun isChild => by
        simp [shrunk.gone leaf isChild] at foundPresent
      exact ⟨leaf, found, by rwa [← shrunk.others leaf same notChild], isLeaf, inside, held⟩
  · rintro ⟨leaf, found, foundPresent, isLeaf, inside, held⟩
    by_cases same : leaf = id
    · subst same
      obtain rfl : cell = found := by simpa [present] using foundPresent
      exact ⟨leaf, _, shrunk.later, rfl, inside, gathered.mpr (.inl held)⟩
    · by_cases isChild : leaf ∈ cell.children
      · rw [← areLeaves.names] at isChild
        obtain ⟨child, member, rfl⟩ := List.mem_map.mp isChild
        obtain rfl : child.2 = found := by
          simpa [areLeaves.present child member] using foundPresent
        exact ⟨id, _, shrunk.later, rfl,
          (wellFormed.contains_leaf_iff present areLeaves remains member).mp inside,
          gathered.mpr (.inr ⟨child, member, held⟩)⟩
      · exact ⟨leaf, found, by rwa [shrunk.others leaf same isChild], isLeaf, inside, held⟩

end Collapse

end WellFormed

end Forest

end LoadAtlas
