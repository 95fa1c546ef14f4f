import LoadAtlas.Proofs.Forest.Below

/-!
# Leaves and branches

A cell of a forest is either a leaf, which is active, or a branch, which was split.  So the
size of a forest is the number of its active cells and its branches, and as branches count no
clients, the clients of the active cells are all clients.
-/

namespace LoadAtlas

namespace Forest

/-- The split cells of a forest. -/
def branches (forest : Forest) : List CellId :=
  forest.cells.keys.filter forest.isSplit

variable {topLevel maxLevel : Nat} {forest : Forest} {id : CellId}

theorem mem_branches_iff : id ∈ forest.branches ↔ forest.isSplit id = true := by
  rw [branches, List.mem_filter, Std.ExtTreeMap.mem_keys, and_iff_right_iff_imp]
  intro split
  obtain ⟨cell, present, _⟩ := isSplit_iff.mp split
  exact mem_cells_iff.mpr ⟨cell, present⟩

theorem nodup_branches (forest : Forest) : forest.branches.Nodup :=
  Std.ExtTreeMap.nodup_keys.filter _

@[simp]
theorem branches_empty : empty.branches = [] := by
  rw [List.eq_nil_iff_forall_not_mem]
  intro id
  simp [mem_branches_iff, isSplit, empty]

theorem branches_perm {ids : List CellId} (distinct : ids.Nodup)
    (members : ∀ id, id ∈ ids ↔ forest.isSplit id = true) : forest.branches.Perm ids := by
  rw [List.perm_ext_iff_of_nodup forest.nodup_branches distinct]
  intro id
  rw [mem_branches_iff, members]

theorem length_branches_congr {before after : Forest}
    (same : ∀ id, after.isSplit id = before.isSplit id) :
    after.branches.length = before.branches.length := by
  refine (branches_perm before.nodup_branches fun id => ?_).length_eq
  rw [mem_branches_iff, same]

namespace WellFormed

section

variable (wellFormed : forest.WellFormed topLevel maxLevel)

include wellFormed

theorem keys_perm : forest.cells.keys.Perm (forest.activeCells ++ forest.branches) := by
  have distinct : (forest.activeCells ++ forest.branches).Nodup := by
    refine List.nodup_append.mpr
      ⟨Table.nodup_toList_set forest.active, forest.nodup_branches, ?_⟩
    rintro id isActive _ isBranch rfl
    obtain ⟨leaf, leafPresent, isLeaf⟩ :=
      (wellFormed.active id).mp (Std.ExtTreeSet.mem_toList.mp isActive)
    obtain ⟨cell, present, split⟩ := isSplit_iff.mp (mem_branches_iff.mp isBranch)
    simp_all
  rw [List.perm_ext_iff_of_nodup Std.ExtTreeMap.nodup_keys distinct]
  intro id
  rw [List.mem_append, mem_branches_iff, isSplit_iff, activeCells, Std.ExtTreeSet.mem_toList,
    wellFormed.active, Std.ExtTreeMap.mem_keys, mem_cells_iff]
  constructor
  · rintro ⟨cell, present⟩
    cases isLeaf : cell.isLeaf with
    | true => exact .inl ⟨cell, present, isLeaf⟩
    | false => exact .inr ⟨cell, present, isLeaf⟩
  · rintro (⟨cell, present, _⟩ | ⟨cell, present, _⟩) <;> exact ⟨cell, present⟩

theorem size_eq : forest.size = forest.activeSize + forest.branches.length := by
  have perm := wellFormed.keys_perm.length_eq
  rw [List.length_append, activeCells, Std.ExtTreeSet.length_toList] at perm
  rw [size, activeSize, ← perm, Std.ExtTreeMap.length_keys]

/-- The active cells count all clients. -/
theorem clientCount_eq_weigh : forest.clientCount = forest.weigh fun _ => 1 := by
  let clients : CellId → Cell → Nat := fun _ cell => cell.tally.buckets.weigh fun _ => 1
  have atLeaf : ∀ id, forest.countAt id = Table.measureAt clients forest.cells id := by
    intro id
    cases present : forest.cells[id]? with
    | none => simp [countAt, Table.measureAt, present]
    | some cell =>
        simp only [countAt, Table.measureAt, present, clients]
        rw [← BucketTable.sum_eq_weigh]
        exact (wellFormed.sound present).tally.balanced
  -- Branches count nothing, so it does no harm to sum over them as well.
  have atBranch : ∀ id ∈ forest.branches, Table.measureAt clients forest.cells id = 0 := by
    intro id isBranch
    obtain ⟨cell, present, split⟩ := isSplit_iff.mp (mem_branches_iff.mp isBranch)
    have nothing := (wellFormed.sound present).split split
    simp [Table.measureAt, present, clients, nothing, Tally.empty]
  calc
    forest.clientCount = (forest.activeCells.map (Table.measureAt clients forest.cells)).sum := by
      rw [clientCount, funext atLeaf]
    _ = ((forest.activeCells ++ forest.branches).map
          (Table.measureAt clients forest.cells)).sum := by
      rw [List.map_append, List.sum_append, List.map_congr_left atBranch]
      simp
    _ = forest.weigh fun _ => 1 := by
      rw [weigh, Table.sum_eq_sum_keys, (wellFormed.keys_perm.map _).sum_nat]

end

end WellFormed

end Forest

end LoadAtlas
