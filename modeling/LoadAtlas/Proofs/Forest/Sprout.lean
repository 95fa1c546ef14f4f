import LoadAtlas.Proofs.Forest.Descent

/-!
# New leaves

Covering a location that no leaf counts makes one leaf without clients.  It becomes a top cell,
or one more child of the split cell at which the descent came to its end.  All other cells keep
their clients, and stay split or whole as they were.
-/

namespace LoadAtlas

namespace Forest

variable {topLevel maxLevel : Nat} {before after forest : Forest} {id leaf other : CellId}
  {cell : Cell} {location : Location}

/-- One leaf without clients came to be in a forest: a top cell, or a child of a split cell. -/
inductive Sprouted (before : Forest) : Forest → CellId → Prop
  | top {leaf : CellId} (absent : before.cells[leaf]? = none) :
      Sprouted before (before.withTop leaf) leaf
  | child {parent leaf : CellId} {cell : Cell} (present : before.cells[parent]? = some cell)
      (split : cell.isLeaf = false) (absent : before.cells[leaf]? = none) :
      Sprouted before (before.withChild parent cell leaf) leaf

namespace Sprouted

theorem absent (sprouted : Sprouted before after leaf) : before.cells[leaf]? = none := by
  cases sprouted with
  | top absent => exact absent
  | child _ _ absent => exact absent

theorem created (sprouted : Sprouted before after leaf) :
    after.cells[leaf]? = some Cell.empty := by
  cases sprouted with
  | top => rw [getElem?_withTop, if_pos rfl]
  | child => rw [getElem?_withChild, if_pos rfl]

theorem active (sprouted : Sprouted before after leaf) :
    after.active = before.active.insert leaf := by
  cases sprouted <;> rfl

/-- Another cell keeps its clients and is split if it was split. -/
theorem origin (sprouted : Sprouted before after leaf)
    (present : before.cells[other]? = some cell) :
    ∃ later : Cell, after.cells[other]? = some later ∧ later.tally = cell.tally ∧
      later.isLeaf = cell.isLeaf := by
  have different : leaf ≠ other := by
    rintro rfl
    exact absurd (sprouted.absent.symm.trans present) (Option.some_ne_none cell).symm
  cases sprouted with
  | top => exact ⟨cell, by rw [getElem?_withTop, if_neg different, present], rfl, rfl⟩
  | @child parent _ parentCell parentPresent split =>
      by_cases same : parent = other
      · obtain rfl : parentCell = cell := by simpa [same, present] using parentPresent.symm
        refine ⟨{ parentCell with children := parentCell.children ++ [leaf] },
          by rw [getElem?_withChild, if_neg different, if_pos same], rfl, ?_⟩
        rw [split]
        exact Cell.isLeaf_eq_false_of_mem (List.mem_append_right _ List.mem_cons_self)
      · exact ⟨cell, by rw [getElem?_withChild, if_neg different, if_neg same, present], rfl, rfl⟩

theorem mem_cells_iff (sprouted : Sprouted before after leaf) :
    other ∈ after.cells ↔ other = leaf ∨ other ∈ before.cells := by
  constructor
  · intro member
    cases sprouted with
    | top => exact (mem_withTop_iff.mp member).imp_left Eq.symm
    | @child parent _ _ present =>
        simp only [withChild, cells_insertLeaf, cells_setCell, Std.ExtTreeMap.mem_insert,
          Std.LawfulEqOrd.compare_eq_iff_eq] at member
        rcases member with rfl | rfl | there
        · exact .inl rfl
        · exact .inr (Forest.mem_cells_iff.mpr ⟨_, present⟩)
        · exact .inr there
  · rintro (rfl | there)
    · exact Forest.mem_cells_iff.mpr ⟨_, sprouted.created⟩
    · obtain ⟨cell, present⟩ := Forest.mem_cells_iff.mp there
      obtain ⟨later, laterPresent, _⟩ := sprouted.origin present
      exact Forest.mem_cells_iff.mpr ⟨later, laterPresent⟩

/-- No cell but the new one becomes active or ceases to be. -/
theorem isActive_eq (sprouted : Sprouted before after leaf) (different : other ≠ leaf) :
    after.isActive other = before.isActive other := by
  have apart : (compare leaf other == .eq) = false :=
    beq_false_of_ne fun same => different (Std.LawfulEqOrd.eq_of_compare same).symm
  rw [isActive, sprouted.active, Std.ExtTreeSet.contains_insert, apart, Bool.false_or, isActive]

theorem leafAt (sprouted : Sprouted before after leaf) (leafAt : before.LeafAt location other) :
    after.LeafAt location other := by
  obtain ⟨falls, cell, present, isLeaf⟩ := leafAt
  obtain ⟨later, laterPresent, _, sameKind⟩ := sprouted.origin present
  exact ⟨falls, later, laterPresent, sameKind.trans isLeaf⟩

end Sprouted

namespace WellFormed

/-- A descent that finds no leaf from a cell on adds one where it came to its end. -/
theorem sprouted_coverBelow (wellFormed : forest.WellFormed topLevel maxLevel)
    (bounded : maxLevel ≤ CellId.finestLevel) {steps : Nat} (reach : id.level + steps = maxLevel)
    (falls : location.FallsInto id) (present : forest.cells[id]? = some cell)
    (uncovered : forest.locateBelow location.finestCell steps id = none) :
    Sprouted forest (forest.coverBelow location.finestCell steps id).1
      (forest.coverBelow location.finestCell steps id).2 := by
  induction steps generalizing id cell with
  | zero =>
      rw [locateBelow, Std.ExtTreeMap.contains_eq_isSome_getElem?, present] at uncovered
      exact absurd uncovered (Option.some_ne_none id)
  | succ steps induction =>
      cases isLeaf : cell.isLeaf with
      | true =>
          rw [locateBelow_of_leaf _ present isLeaf] at uncovered
          exact absurd uncovered (Option.some_ne_none id)
      | false =>
          by_cases listed : location.childAt id ∈ cell.children
          · obtain ⟨childMember, level, _⟩ := wellFormed.child present listed
            obtain ⟨childCell, childPresent⟩ := mem_cells_iff.mp childMember
            rw [locateBelow_of_listed present listed] at uncovered
            rw [coverBelow_of_listed present listed]
            exact induction (by omega) (wellFormed.fallsInto_of_childAt_mem present listed)
              childPresent uncovered
          · rw [coverBelow_of_unlisted present isLeaf listed]
            exact .child present isLeaf
              (wellFormed.shaped.childAt_absent present (by omega) falls listed)

theorem sprouted_cover (wellFormed : forest.WellFormed topLevel maxLevel)
    (ordered : topLevel ≤ maxLevel) (bounded : maxLevel ≤ CellId.finestLevel)
    (uncovered : forest.locate? location topLevel maxLevel = none) :
    Sprouted forest (forest.cover location topLevel maxLevel).1
      (forest.cover location topLevel maxLevel).2 := by
  have topBounded := Nat.le_trans ordered bounded
  have level : (location.cellAt topLevel).level = topLevel := location.level_cellAt topBounded
  cases present : forest.cells[location.cellAt topLevel]? with
  | some top =>
      rw [cover_of_present present]
      exact wellFormed.sprouted_coverBelow bounded (by omega)
        (location.fallsInto_cellAt topBounded) present uncovered
  | none =>
      have created := (Sprouted.top present).created
      rw [cover_of_absent present, coverBelow_eq_of_leaf _ _ created Cell.isLeaf_empty]
      exact .top present

end WellFormed

end Forest

end LoadAtlas
