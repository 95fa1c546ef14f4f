import LoadAtlas.Proofs.Forest.Collapse

/-!
# The order of a sweep

A sweep lists the split cells below a top cell breadth first.  The list names every split cell
inside the top cell, and a cell never stands before a cell that contains it.  Read from its end
it therefore comes to each cell after everything inside it.
-/

namespace LoadAtlas

namespace Forest

variable {topLevel maxLevel : Nat} {forest : Forest} {id child other top : CellId}

theorem mem_topCells : id ∈ forest.topCells ↔ id ∈ forest.tops :=
  Std.ExtTreeSet.mem_toList

theorem nodup_topCells (forest : Forest) : forest.topCells.Nodup :=
  Table.nodup_toList_set forest.tops

theorem isSplit_iff : forest.isSplit id = true ↔
    ∃ cell : Cell, forest.cells[id]? = some cell ∧ cell.isLeaf = false := by
  cases present : forest.cells[id]? <;> simp [isSplit, present]

theorem mem_childrenOf_iff : child ∈ forest.childrenOf id ↔
    ∃ cell : Cell, forest.cells[id]? = some cell ∧ child ∈ cell.children := by
  cases present : forest.cells[id]? <;> simp [childrenOf, present]

namespace WellFormed

variable (wellFormed : forest.WellFormed topLevel maxLevel) {ids : List CellId} {level : Nat}

include wellFormed

/-- The children of all cells of one level are the cells of the next level, each listed once. -/
theorem next_level (there : ∀ id ∈ ids, id ∈ forest.cells ∧ id.level = level)
    (distinct : ids.Nodup) :
    (∀ child ∈ ids.flatMap forest.childrenOf, child ∈ forest.cells ∧ child.level = level + 1) ∧
      (ids.flatMap forest.childrenOf).Nodup := by
  constructor
  · intro child member
    obtain ⟨id, idMember, childMember⟩ := List.mem_flatMap.mp member
    obtain ⟨cell, present, listed⟩ := mem_childrenOf_iff.mp childMember
    obtain ⟨childThere, childLevel, _⟩ := wellFormed.child present listed
    exact ⟨childThere, by rw [childLevel, (there id idMember).2]⟩
  · rw [List.nodup_flatMap]
    constructor
    · intro id idMember
      obtain ⟨cell, present⟩ := mem_cells_iff.mp (there id idMember).1
      simpa [childrenOf, present] using (wellFormed.sound present).nodup
    · refine distinct.imp fun {first second} different => ?_
      intro child inFirst inSecond
      obtain ⟨firstCell, firstPresent, firstListed⟩ := mem_childrenOf_iff.mp inFirst
      obtain ⟨secondCell, secondPresent, secondListed⟩ := mem_childrenOf_iff.mp inSecond
      apply different
      rw [(wellFormed.parent_unique firstPresent firstListed).2.1,
        ← (wellFormed.parent_unique secondPresent secondListed).2.1]

/-- A breadth-first list names the split cells at and below the given cells. -/
theorem mem_splitCellsFrom_iff (levels : Nat)
    (there : ∀ id ∈ ids, id ∈ forest.cells ∧ id.level = level) (distinct : ids.Nodup) :
    other ∈ forest.splitCellsFrom levels ids ↔
      forest.isSplit other = true ∧ other.level < level + levels ∧
        ∃ id ∈ ids, id.contains other = true := by
  induction levels generalizing ids level with
  | zero =>
      simp only [splitCellsFrom, List.not_mem_nil, false_iff, not_and, not_exists]
      intro split shallow id member inside
      obtain ⟨_, present, _⟩ := isSplit_iff.mp split
      have deeper := CellId.level_le_of_contains (wellFormed.isCell_of_mem (there id member).1)
        (wellFormed.isCell present) inside
      have idLevel := (there id member).2
      omega
  | succ levels induction =>
      have splitThere : ∀ id ∈ ids.filter forest.isSplit, id ∈ forest.cells ∧ id.level = level :=
        fun id member => there id (List.mem_filter.mp member).1
      obtain ⟨nextThere, nextDistinct⟩ :=
        wellFormed.next_level splitThere (distinct.filter _)
      rw [splitCellsFrom, List.mem_append, induction nextThere nextDistinct, List.mem_filter]
      constructor
      · rintro (⟨member, split⟩ | ⟨split, shallow, child, childMember, inside⟩)
        · obtain ⟨otherThere, otherLevel⟩ := there other member
          exact ⟨split, by omega, other, member,
            CellId.contains_self (wellFormed.isCell_of_mem otherThere)⟩
        · obtain ⟨id, idMember, childOf⟩ := List.mem_flatMap.mp childMember
          obtain ⟨cell, present, listed⟩ := mem_childrenOf_iff.mp childOf
          obtain ⟨_, otherPresent, _⟩ := isSplit_iff.mp split
          have outer := (wellFormed.child present listed).2.2
          exact ⟨split, by omega, id, (List.mem_filter.mp idMember).1,
            CellId.contains_trans (wellFormed.isCell present)
              (wellFormed.isCell_of_mem (nextThere child childMember).1)
              (wellFormed.isCell otherPresent) outer inside⟩
      · rintro ⟨split, shallow, id, member, inside⟩
        by_cases same : id = other
        · subst same
          exact .inl ⟨member, split⟩
        · obtain ⟨idThere, idLevel⟩ := there id member
          obtain ⟨cell, present⟩ := mem_cells_iff.mp idThere
          obtain ⟨_, otherPresent, _⟩ := isSplit_iff.mp split
          obtain ⟨deeper, listed⟩ := wellFormed.shaped.child_toward present otherPresent inside same
          have idSplit : forest.isSplit id = true :=
            isSplit_iff.mpr ⟨cell, present, Cell.isLeaf_eq_false_of_mem listed⟩
          refine .inr ⟨split, by omega, other.ancestor (id.level + 1), ?_,
            CellId.contains_ancestor (wellFormed.isCell otherPresent) (by omega)⟩
          exact List.mem_flatMap.mpr ⟨id, List.mem_filter.mpr ⟨member, idSplit⟩,
            mem_childrenOf_iff.mpr ⟨cell, present, listed⟩⟩

/-- In a breadth-first list no cell stands before a cell that contains it. -/
theorem pairwise_splitCellsFrom (levels : Nat)
    (there : ∀ id ∈ ids, id ∈ forest.cells ∧ id.level = level) (distinct : ids.Nodup) :
    (forest.splitCellsFrom levels ids).Pairwise fun first second =>
      second.contains first = false := by
  induction levels generalizing ids level with
  | zero => exact List.Pairwise.nil
  | succ levels induction =>
      have splitThere : ∀ id ∈ ids.filter forest.isSplit, id ∈ forest.cells ∧ id.level = level :=
        fun id member => there id (List.mem_filter.mp member).1
      obtain ⟨nextThere, nextDistinct⟩ :=
        wellFormed.next_level splitThere (distinct.filter _)
      rw [splitCellsFrom, List.pairwise_append]
      refine ⟨?_, induction nextThere nextDistinct, ?_⟩
      · refine (distinct.filter _).imp_of_mem
          fun {first second} firstMember secondMember different => ?_
        obtain ⟨firstThere, firstLevel⟩ := splitThere first firstMember
        obtain ⟨secondThere, secondLevel⟩ := splitThere second secondMember
        by_contra inside
        exact different (CellId.eq_of_contains_of_level_eq (wellFormed.isCell_of_mem secondThere)
          (wellFormed.isCell_of_mem firstThere) (by simpa using inside)
          (firstLevel.trans secondLevel.symm)).symm
      · intro first firstMember second secondMember
        obtain ⟨firstThere, firstLevel⟩ := splitThere first firstMember
        obtain ⟨split, _, child, childMember, childInside⟩ :=
          (wellFormed.mem_splitCellsFrom_iff levels nextThere nextDistinct).mp secondMember
        obtain ⟨childThere, childLevel⟩ := nextThere child childMember
        obtain ⟨_, secondPresent, _⟩ := isSplit_iff.mp split
        have secondIsCell := wellFormed.isCell secondPresent
        have deeper := CellId.level_le_of_contains (wellFormed.isCell_of_mem childThere)
          secondIsCell childInside
        by_contra inside
        have shallower := CellId.level_le_of_contains secondIsCell
          (wellFormed.isCell_of_mem firstThere) (by simpa using inside)
        omega

/-- The list of a top cell names the split cells inside it. -/
theorem mem_splitCells_iff (member : top ∈ forest.cells) : other ∈ forest.splitCells top ↔
    forest.isSplit other = true ∧ top.contains other = true := by
  have there : ∀ id ∈ [top], id ∈ forest.cells ∧ id.level = top.level := by simp [member]
  have bounded := other.level_le_finest
  rw [splitCells, wellFormed.mem_splitCellsFrom_iff _ there (List.nodup_singleton top)]
  simp only [List.mem_singleton, exists_eq_left]
  exact ⟨fun ⟨split, _, inside⟩ => ⟨split, inside⟩, fun ⟨split, inside⟩ =>
    ⟨split, by omega, inside⟩⟩

/-- Read from its end, the list of a top cell names no cell before a cell inside it. -/
theorem pairwise_reverse_splitCells (member : top ∈ forest.cells) :
    (forest.splitCells top).reverse.Pairwise fun first second =>
      first.contains second = false := by
  rw [List.pairwise_reverse]
  have there : ∀ id ∈ [top], id ∈ forest.cells ∧ id.level = top.level := by simp [member]
  exact wellFormed.pairwise_splitCellsFrom _ there (List.nodup_singleton top)

end WellFormed

end Forest

end LoadAtlas
