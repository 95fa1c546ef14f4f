import LoadAtlas.Proofs.Forest.Cascade
import LoadAtlas.Proofs.Forest.Sprout
import LoadAtlas.Proofs.Forest.Sweep

/-!
# Changes of a forest

Besides cascades two changes are made to a forest.  Counting or taking away a client extends it
by one leaf at most and gives that leaf another tally.  A sweep merges branches.  Both are told
here by what they do to branches and to leaves that are too full: an extension makes no branch
and only its own leaf can become too full; a sweep ends as many branches as it merges, each with
too few clients inside, and no merged leaf is too full if merging starts below splitting.
-/

namespace LoadAtlas

/-- What a cell is apart from the names of its children. -/
def Cell.face (cell : Cell) : Tally × Bool :=
  (cell.tally, cell.isLeaf)

namespace Forest

variable {topLevel maxLevel splitThreshold mergeThreshold : Nat} {before after forest : Forest}
  {id leaf other : CellId} {cell : Cell} {location : Location}

/-! ## One more leaf -/

/-- Two forests differ in one leaf at most, which may be new.  Every other cell is in both, with
the same tally, and is split in both or in none. -/
structure Extended (before after : Forest) (leaf : CellId) : Prop where
  isLeaf : ∃ cell : Cell, after.cells[leaf]? = some cell ∧ cell.isLeaf = true
  unsplit : before.isSplit leaf = false
  others : ∀ other, other ≠ leaf →
    after.cells[other]?.map Cell.face = before.cells[other]?.map Cell.face

theorem isSplit_eq_false_of_leaf (present : forest.cells[id]? = some cell)
    (isLeaf : cell.isLeaf = true) : forest.isSplit id = false := by
  simp [isSplit, present, isLeaf]

theorem isSplit_eq_false_of_absent (absent : forest.cells[id]? = none) :
    forest.isSplit id = false := by
  simp [isSplit, absent]

namespace Extended

theorem refl (present : forest.cells[leaf]? = some cell) (isLeaf : cell.isLeaf = true) :
    Extended forest forest leaf :=
  ⟨⟨cell, present, isLeaf⟩, isSplit_eq_false_of_leaf present isLeaf, fun _ _ => rfl⟩

theorem trans (earlier : Extended before forest leaf) (later : Extended forest after leaf) :
    Extended before after leaf where
  isLeaf := later.isLeaf
  unsplit := earlier.unsplit
  others other different := (later.others other different).trans (earlier.others other different)

theorem origin (extended : Extended before after leaf) (different : other ≠ leaf)
    (later : after.cells[other]? = some cell) :
    ∃ old : Cell, before.cells[other]? = some old ∧ old.tally = cell.tally ∧
      old.isLeaf = cell.isLeaf := by
  have same := extended.others other different
  rw [later, Option.map_some, eq_comm, Option.map_eq_some_iff] at same
  obtain ⟨old, earlier, faces⟩ := same
  exact ⟨old, earlier, congrArg Prod.fst faces, congrArg Prod.snd faces⟩

theorem mem_cells (extended : Extended before after leaf) (member : id ∈ after.cells) :
    id = leaf ∨ id ∈ before.cells := by
  refine or_iff_not_imp_left.mpr fun different => ?_
  obtain ⟨cell, later⟩ := mem_cells_iff.mp member
  obtain ⟨old, earlier, _⟩ := extended.origin different later
  exact mem_cells_iff.mpr ⟨old, earlier⟩

theorem isSplit_eq (extended : Extended before after leaf) (id : CellId) :
    after.isSplit id = before.isSplit id := by
  by_cases same : id = leaf
  · obtain ⟨cell, present, isLeaf⟩ := extended.isLeaf
    rw [same, extended.unsplit, isSplit_eq_false_of_leaf present isLeaf]
  · have faces := extended.others id same
    cases present : after.cells[id]? with
    | none =>
        rw [present, Option.map_none, eq_comm, Option.map_eq_none_iff] at faces
        rw [isSplit_eq_false_of_absent present, isSplit_eq_false_of_absent faces]
    | some cell =>
        obtain ⟨old, earlier, _, isLeaf⟩ := extended.origin same present
        simp only [isSplit, present, earlier, isLeaf]

theorem length_branches (extended : Extended before after leaf) :
    after.branches.length = before.branches.length :=
  length_branches_congr extended.isSplit_eq

theorem overfull (extended : Extended before after leaf)
    (full : after.Overfull splitThreshold maxLevel other) :
    other = leaf ∨ before.Overfull splitThreshold maxLevel other := by
  by_cases same : other = leaf
  · exact .inl same
  · obtain ⟨cell, present, isLeaf, many, room⟩ := full
    obtain ⟨old, earlier, tally, oldLeaf⟩ := extended.origin same present
    exact .inr ⟨old, earlier, oldLeaf.trans isLeaf, by rwa [Cell.clientCount, tally], room⟩

end Extended

theorem extended_setCell (present : forest.cells[leaf]? = some cell) (isLeaf : cell.isLeaf = true)
    (tally : Tally) : Extended forest (forest.setCell leaf { cell with tally }) leaf where
  isLeaf := ⟨{ cell with tally }, by simp, isLeaf⟩
  unsplit := isSplit_eq_false_of_leaf present isLeaf
  others other different := by
    rw [cells_setCell, Std.ExtTreeMap.getElem?_insert, if_neg (by simpa using Ne.symm different)]

theorem extended_addAt (leafAt : forest.LeafAt location leaf) (address : Bucket.Address)
    (amount : Nat) : Extended forest (forest.addAt leaf address amount) leaf := by
  obtain ⟨_, cell, present, isLeaf⟩ := leafAt
  simp only [addAt, present]
  exact extended_setCell present isLeaf _

theorem Sprouted.extended (sprouted : Sprouted before after leaf) : Extended before after leaf where
  isLeaf := ⟨Cell.empty, sprouted.created, Cell.isLeaf_empty⟩
  unsplit := isSplit_eq_false_of_absent sprouted.absent
  others other different := by
    cases present : before.cells[other]? with
    | some cell =>
        obtain ⟨later, laterPresent, sameTally, sameKind⟩ := sprouted.origin present
        rw [laterPresent, Option.map_some, Option.map_some, Cell.face, Cell.face, sameTally,
          sameKind]
    | none =>
        have absent : other ∉ after.cells := by
          rw [sprouted.mem_cells_iff, not_or]
          exact ⟨different, by simpa using present⟩
        rw [Std.ExtTreeMap.getElem?_eq_none absent]

namespace WellFormed

theorem extended_cover (wellFormed : forest.WellFormed topLevel maxLevel)
    (ordered : topLevel ≤ maxLevel) (bounded : maxLevel ≤ CellId.finestLevel)
    (location : Location) : Extended forest (forest.cover location topLevel maxLevel).1
      (forest.cover location topLevel maxLevel).2 := by
  cases found : forest.locate? location topLevel maxLevel with
  | some leaf =>
      obtain ⟨_, cell, present, isLeaf⟩ :=
        (wellFormed.locate?_eq_some_iff ordered bounded).mp found
      rw [cover_of_locate? found]
      exact .refl present isLeaf
  | none => exact (wellFormed.sprouted_cover ordered bounded found).extended

end WellFormed

/-! ## Sweeps -/

namespace Swept

section

variable {merged : List CellId} (swept : Swept mergeThreshold before after merged)

include swept

/-- No leaf is too full after a sweep that was not before. -/
theorem overfull (below : mergeThreshold ≤ splitThreshold)
    (overfull : after.Overfull splitThreshold maxLevel id) :
    before.Overfull splitThreshold maxLevel id := by
  obtain ⟨cell, present, isLeaf, full, room⟩ := overfull
  have member := mem_cells_iff.mpr ⟨cell, present⟩
  -- A merged leaf holds fewer clients than the merge threshold; any other leaf is an old one.
  by_cases few : before.isSplit id = true ∧ before.clientsBelow id < mergeThreshold
  · obtain ⟨_, found, foundPresent, _, count, _⟩ := swept.collapsed id member few.1 few.2
    obtain rfl : cell = found := by simpa [present] using foundPresent
    omega
  · have same := (swept.unchanged id member few).1
    exact ⟨cell, by rwa [← same], isLeaf, full, room⟩

theorem calm (below : mergeThreshold ≤ splitThreshold)
    (calm : before.Calm splitThreshold maxLevel) : after.Calm splitThreshold maxLevel :=
  fun id overfull => calm id (swept.overfull below overfull)

variable (wellFormed : before.WellFormed topLevel maxLevel)

include wellFormed

/-- A sweep keeps the branches that have enough clients. -/
theorem isSplit_eq_true_iff : after.isSplit id = true ↔
    before.isSplit id = true ∧ mergeThreshold ≤ before.clientsBelow id := by
  constructor
  · intro split
    obtain ⟨cell, present, _⟩ := Forest.isSplit_iff.mp split
    exact (swept.isSplit_iff id (mem_cells_iff.mpr ⟨cell, present⟩)).mp split
  · rintro ⟨split, many⟩
    obtain ⟨cell, present, _⟩ := Forest.isSplit_iff.mp split
    have member := mem_cells_iff.mpr ⟨cell, present⟩
    have remains : id ∈ after.cells := (swept.remains_iff id).mpr ⟨member,
      fun outer outerMember _ inside =>
        many.trans (wellFormed.clientsBelow_le outerMember member inside)⟩
    exact (swept.isSplit_iff id remains).mpr ⟨split, many⟩

theorem clientsInside_lt (split : before.isSplit id = true) (ended : after.isSplit id = false) :
    before.clientsInside id < mergeThreshold := by
  obtain ⟨cell, present, _⟩ := Forest.isSplit_iff.mp split
  rw [wellFormed.clientsInside_eq_clientsBelow (mem_cells_iff.mpr ⟨cell, present⟩)]
  by_contra many
  rw [(swept.isSplit_eq_true_iff wellFormed).mpr ⟨split, Nat.le_of_not_lt many⟩] at ended
  exact Bool.noConfusion ended

/-- A sweep ends as many branches as it merges. -/
theorem length_branches : after.branches.length + merged.length = before.branches.length := by
  have apart : (after.branches ++ merged).Nodup := by
    refine List.nodup_append.mpr ⟨after.nodup_branches, swept.nodup_merged, ?_⟩
    rintro id isBranch _ isMerged rfl
    have many := ((swept.isSplit_eq_true_iff wellFormed).mp (mem_branches_iff.mp isBranch)).2
    have few := ((swept.mem_merged_iff id).mp isMerged).2
    omega
  rw [← List.length_append]
  refine (branches_perm apart fun id => ?_).length_eq.symm
  rw [List.mem_append, mem_branches_iff, swept.isSplit_eq_true_iff wellFormed,
    swept.mem_merged_iff, ← and_or_left]
  exact and_iff_left (Nat.lt_or_ge _ _).symm

end

end Swept

end Forest

end LoadAtlas
