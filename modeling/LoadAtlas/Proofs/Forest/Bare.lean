import LoadAtlas.Proofs.Forest.Branches
import LoadAtlas.Proofs.Forest.Change

/-!
# Bare forests

A forest is bare if nothing is left of it but its top cells, each a leaf without clients.  One
sweep makes a forest bare once all its clients are gone, however deep it was: a cell other than a
top cell lies inside one that has no clients below it, so it does not stay.
-/

namespace LoadAtlas

namespace Forest

/-- There are only the top cells, all of them empty leaves. -/
structure Bare (forest : Forest) : Prop where
  mem_cells_iff : ∀ id : CellId, id ∈ forest.cells ↔ id ∈ forest.tops
  empty : ∀ {id : CellId} {cell : Cell}, forest.cells[id]? = some cell → cell = Cell.empty

variable {topLevel maxLevel mergeThreshold : Nat} {before after forest : Forest} {id : CellId}
  {cell : Cell} {merged : List CellId}

/-! ## Forests without clients -/

/-- No clients are counted, with whatever key. -/
def Deserted (forest : Forest) : Prop :=
  ∀ key, forest.countOf key = 0

theorem Deserted.tally_eq (deserted : forest.Deserted)
    (wellFormed : forest.WellFormed topLevel maxLevel) (present : forest.cells[id]? = some cell) :
    cell.tally = Tally.empty := by
  apply (wellFormed.sound present).tally.eq_empty
  intro key
  have share := Table.measureAt_le_sum
    (fun _ (cell : Cell) => cell.tally.buckets.countOf key) forest.cells id
  rw [Table.measureAt, present] at share
  exact Nat.eq_zero_of_le_zero (Nat.le_trans share (Nat.le_of_eq (deserted key)))

theorem Deserted.clientsBelow_eq_zero (deserted : forest.Deserted)
    (wellFormed : forest.WellFormed topLevel maxLevel) (id : CellId) :
    forest.clientsBelow id = 0 := by
  apply List.sum_eq_zero
  intro count member
  obtain ⟨⟨other, found⟩, entry, rfl⟩ := List.mem_map.mp member
  have present := Std.ExtTreeMap.mem_toList_iff_getElem?_eq_some.mp entry
  have nothing := deserted.tally_eq wellFormed present
  simp [countInside, Cell.clientCount, nothing, Tally.empty]

theorem Kept.deserted (kept : Kept topLevel maxLevel before after) (deserted : before.Deserted) :
    after.Deserted :=
  fun key => (kept.countOf key).trans (deserted key)

/-- A sweep keeps no cell inside another one that has no clients below it. -/
theorem Deserted.bare_mergeSweep (deserted : forest.Deserted)
    (wellFormed : forest.WellFormed topLevel maxLevel) (positive : 0 < mergeThreshold) :
    (forest.mergeSweep mergeThreshold).1.Bare := by
  have swept := wellFormed.swept_mergeSweep mergeThreshold
  have kept := wellFormed.mergeSweep mergeThreshold
  have known := kept.wellFormed
  have few (id : CellId) : forest.clientsBelow id < mergeThreshold := by
    rwa [deserted.clientsBelow_eq_zero wellFormed]
  have isTop {id : CellId} (member : id ∈ (forest.mergeSweep mergeThreshold).1.cells) :
      id.level = topLevel := by
    obtain ⟨cell, present⟩ := mem_cells_iff.mp member
    obtain ⟨earlier, alone⟩ := (swept.remains_iff id).mp member
    obtain ⟨old, oldPresent⟩ := mem_cells_iff.mp earlier
    by_contra deeper
    -- The cell around it on the top level would have kept nothing inside.
    have level := wellFormed.levels oldPresent
    obtain ⟨top, topPresent⟩ :=
      wellFormed.shaped.exists_ancestor oldPresent level.1 (Nat.le_refl topLevel)
    have topLevelEq := CellId.level_ancestor id (Nat.le_trans level.1 id.level_le_finest)
    have many := alone (id.ancestor topLevel) (mem_cells_iff.mpr ⟨top, topPresent⟩)
      (fun same => deeper (same ▸ topLevelEq))
      (CellId.contains_ancestor (wellFormed.isCell oldPresent) level.1)
    exact absurd (few _) (Nat.not_lt_of_le many)
  refine ⟨fun id => ?_, fun {id cell} present => ?_⟩
  · rw [known.tops]
    exact (and_iff_left_of_imp isTop).symm
  · have unsplit : (forest.mergeSweep mergeThreshold).1.isSplit id ≠ true := fun split =>
      absurd (few id) (Nat.not_lt_of_le ((swept.isSplit_eq_true_iff wellFormed).mp split).2)
    have isLeaf : cell.isLeaf = true := by simpa [isSplit, present] using unsplit
    have tally := (kept.deserted deserted).tally_eq known present
    have children := Cell.isLeaf_iff.mp isLeaf
    cases cell
    simp_all [Cell.empty, Tally.empty]

namespace Bare

variable (bare : forest.Bare)

include bare

theorem branches_eq_nil : forest.branches = [] := by
  rw [List.eq_nil_iff_forall_not_mem]
  intro id member
  obtain ⟨cell, present, split⟩ := isSplit_iff.mp (mem_branches_iff.mp member)
  rw [bare.empty present, Cell.isLeaf_empty] at split
  exact Bool.noConfusion split

theorem active_eq (wellFormed : forest.WellFormed topLevel maxLevel) :
    forest.active = forest.tops := by
  apply Std.ExtTreeSet.ext_mem
  intro id
  rw [wellFormed.active, ← bare.mem_cells_iff, Forest.mem_cells_iff]
  refine exists_congr fun cell => and_iff_left_of_imp fun present => ?_
  rw [bare.empty present, Cell.isLeaf_empty]

theorem activeSize_eq (wellFormed : forest.WellFormed topLevel maxLevel) :
    forest.activeSize = forest.topCells.length := by
  rw [activeSize, bare.active_eq wellFormed, topCells, Std.ExtTreeSet.length_toList]

theorem size_eq (wellFormed : forest.WellFormed topLevel maxLevel) :
    forest.size = forest.topCells.length := by
  rw [wellFormed.size_eq, bare.branches_eq_nil, bare.activeSize_eq wellFormed, List.length_nil,
    Nat.add_zero]

end Bare

end Forest

end LoadAtlas
