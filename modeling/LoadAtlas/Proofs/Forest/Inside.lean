import LoadAtlas.Proofs.Forest.Below

/-!
# Clients inside a cell

The clients inside a cell of the globe are those whose buckets lie in it, wherever the forest
counts them.  This number is the weight of the forest in which the keys inside the cell weigh
one and all others nothing, so splits and merges do not change it, whatever becomes of the
cell itself.  While the forest has the cell, it is the number of clients below the cell.
-/

namespace LoadAtlas

/-- The weight that counts the keys whose location lies in a cell. -/
def Bucket.inside (cell : CellId) (key : String) : Nat :=
  match representative key with
  | .ok location => if location.FallsInto cell then 1 else 0
  | .error _ => 0

namespace Bucket

variable {key : String} {location : Location}

theorem inside_of_located (located : representative key = .ok location) (cell : CellId) :
    inside cell key = if location.FallsInto cell then 1 else 0 := by
  simp only [inside, located]

theorem inside_le_of_contains {outer inner : CellId} (outerCell : outer.IsCell)
    (contained : outer.contains inner = true) (key : String) :
    inside inner key ≤ inside outer key := by
  unfold inside
  split
  · rename_i center _
    by_cases falls : center.FallsInto inner
    · rw [if_pos falls, if_pos (falls.of_contains outerCell contained)]
    · rw [if_neg falls]
      exact Nat.zero_le _
  · exact Nat.le_refl 0

end Bucket

namespace BucketTable

variable {buckets : BucketTable} {id : CellId}

theorem weigh_le_weigh {first second : String → Nat} (smaller : ∀ key, first key ≤ second key)
    (buckets : BucketTable) : buckets.weigh first ≤ buckets.weigh second :=
  Table.sum_le_sum fun key _ _ => Nat.mul_le_mul_right _ (smaller key)

theorem Sound.weigh_inside_of_all (sound : buckets.Sound)
    (falls : ∀ (key : String) (bucket : Bucket), buckets[key]? = some bucket →
      bucket.location.FallsInto id) :
    buckets.weigh (Bucket.inside id) = buckets.sum := by
  rw [sum_eq_weigh]
  refine Table.sum_congr fun key bucket held => ?_
  rw [Bucket.inside_of_located (sound key bucket held).located, if_pos (falls key bucket held)]

theorem Sound.weigh_inside_of_none (sound : buckets.Sound)
    (apart : ∀ (key : String) (bucket : Bucket), buckets[key]? = some bucket →
      ¬ bucket.location.FallsInto id) :
    buckets.weigh (Bucket.inside id) = 0 := by
  apply Nat.eq_zero_of_not_pos
  intro positive
  obtain ⟨key, bucket, held, counts⟩ := Table.sum_pos_iff.mp positive
  rw [Bucket.inside_of_located (sound key bucket held).located, if_neg (apart key bucket held),
    Nat.zero_mul] at counts
  exact absurd counts (Nat.lt_irrefl 0)

end BucketTable

namespace Forest

variable {topLevel maxLevel : Nat} {forest : Forest} {id other : CellId} {cell : Cell}

/-- The number of clients whose location lies in a cell. -/
def clientsInside (forest : Forest) (id : CellId) : Nat :=
  forest.weigh (Bucket.inside id)

theorem clientsInside_le_of_contains (isCell : id.IsCell) (contained : id.contains other = true) :
    forest.clientsInside other ≤ forest.clientsInside id := by
  unfold clientsInside weigh
  exact Table.sum_le_sum fun _ cell _ =>
    cell.tally.buckets.weigh_le_weigh (Bucket.inside_le_of_contains isCell contained)

theorem Kept.clientsInside {before after : Forest} (kept : Kept topLevel maxLevel before after)
    (id : CellId) : after.clientsInside id = before.clientsInside id :=
  kept.weigh _

namespace WellFormed

section

variable (wellFormed : forest.WellFormed topLevel maxLevel)

include wellFormed

theorem clientsInside_pos_iff : 0 < forest.clientsInside id ↔
    ∃ (leaf : CellId) (cell : Cell) (key : String) (bucket : Bucket),
      forest.cells[leaf]? = some cell ∧ cell.tally.buckets[key]? = some bucket ∧
        bucket.location.FallsInto id := by
  rw [clientsInside, weigh_pos_iff]
  refine exists_congr fun leaf => exists_congr fun cell => exists_congr fun key =>
    exists_congr fun bucket => and_congr_right fun present => and_congr_right fun held => ?_
  have sound := (wellFormed.sound present).tally.buckets key bucket held
  rw [Bucket.inside_of_located sound.located]
  by_cases falls : bucket.location.FallsInto id <;> simp [falls, sound.positive]

/-- A cell of the forest and a leaf share a location only if the leaf lies in the cell. -/
theorem contains_of_common_leaf (present : id ∈ forest.cells) {leaf : CellId} {found : Cell}
    (leafPresent : forest.cells[leaf]? = some found) (isLeaf : found.isLeaf = true)
    {location : Location} (falls : location.FallsInto id) (leafFalls : location.FallsInto leaf) :
    id.contains leaf = true := by
  obtain ⟨cell, idPresent⟩ := mem_cells_iff.mp present
  rcases Nat.le_total id.level leaf.level with coarser | finer
  · exact falls.contains leafFalls coarser
  · obtain rfl := wellFormed.shaped.eq_of_leaf_contains leafPresent isLeaf idPresent
      (leafFalls.contains falls finer)
    exact CellId.contains_self falls.isCell

/-- In a cell of the forest there are exactly the clients below it. -/
theorem clientsInside_eq_clientsBelow (member : id ∈ forest.cells) :
    forest.clientsInside id = forest.clientsBelow id := by
  unfold clientsInside weigh clientsBelow
  refine Table.sum_congr fun leaf found present => ?_
  have sound := wellFormed.sound present
  -- Leaf by leaf: either all buckets lie in the cell or none does.
  by_cases isLeaf : found.isLeaf = true
  · by_cases inside : id.contains leaf = true
    · rw [countInside, if_pos ⟨isLeaf, inside⟩, Cell.clientCount, sound.tally.balanced]
      refine sound.tally.buckets.weigh_inside_of_all fun key bucket held => ?_
      exact (sound.placed key bucket held).of_contains (wellFormed.isCell_of_mem member) inside
    · rw [countInside, if_neg fun both => inside both.2]
      refine sound.tally.buckets.weigh_inside_of_none fun key bucket held falls => ?_
      exact inside (wellFormed.contains_of_common_leaf member present isLeaf falls
        (sound.placed key bucket held))
  · rw [countInside, if_neg fun both => isLeaf both.1, sound.split (by simpa using isLeaf)]
    exact BucketTable.weigh_empty _

theorem clientsInside_leaf (present : forest.cells[id]? = some cell)
    (isLeaf : cell.isLeaf = true) : forest.clientsInside id = cell.clientCount := by
  rw [wellFormed.clientsInside_eq_clientsBelow (mem_cells_iff.mpr ⟨cell, present⟩),
    wellFormed.clientsBelow_leaf present isLeaf]

end

end WellFormed

end Forest

end LoadAtlas
