import LoadAtlas.Cell.Sphere
import LoadAtlas.Proofs.Cell.Ancestor

/-!
# Nested cells

Containment orders the cells, and two cells around a common one are comparable.  The cells of
one location are the ancestors of its finest cell, so they form a chain with one cell on every
level.
-/

namespace LoadAtlas

namespace CellId

variable {outer middle inner : CellId}

theorem level_le_of_contains (outerCell : outer.IsCell) (innerCell : inner.IsCell)
    (inside : outer.contains inner = true) : outer.level ≤ inner.level :=
  ((contains_iff outerCell innerCell).mp inside).1

theorem ancestor_eq_of_contains (outerCell : outer.IsCell) (innerCell : inner.IsCell)
    (inside : outer.contains inner = true) : inner.ancestor outer.level = outer :=
  ((contains_iff outerCell innerCell).mp inside).2

theorem contains_ancestor (isCell : inner.IsCell) {level : Nat} (coarser : level ≤ inner.level) :
    (inner.ancestor level).contains inner = true := by
  have bounded := Nat.le_trans coarser inner.level_le_finest
  rw [contains_iff (isCell_ancestor inner bounded) isCell, level_ancestor inner bounded]
  exact ⟨coarser, rfl⟩

theorem contains_self (isCell : inner.IsCell) : inner.contains inner = true :=
  (contains_iff isCell isCell).mpr ⟨Nat.le_refl _, isCell⟩

theorem contains_trans (outerCell : outer.IsCell) (middleCell : middle.IsCell)
    (innerCell : inner.IsCell) (first : outer.contains middle = true)
    (second : middle.contains inner = true) : outer.contains inner = true := by
  obtain ⟨firstLevel, firstAncestor⟩ := (contains_iff outerCell middleCell).mp first
  obtain ⟨secondLevel, secondAncestor⟩ := (contains_iff middleCell innerCell).mp second
  refine (contains_iff outerCell innerCell).mpr ⟨Nat.le_trans firstLevel secondLevel, ?_⟩
  rw [← ancestor_ancestor inner firstLevel, secondAncestor, firstAncestor]

/-- Of two cells around a common one the coarser contains the other. -/
theorem contains_of_common (outerCell : outer.IsCell) (middleCell : middle.IsCell)
    (innerCell : inner.IsCell) (first : outer.contains inner = true)
    (second : middle.contains inner = true) (coarser : outer.level ≤ middle.level) :
    outer.contains middle = true := by
  refine (contains_iff outerCell middleCell).mpr ⟨coarser, ?_⟩
  rw [← ancestor_eq_of_contains middleCell innerCell second, ancestor_ancestor inner coarser]
  exact ancestor_eq_of_contains outerCell innerCell first

theorem eq_of_contains_of_level_eq (outerCell : outer.IsCell) (innerCell : inner.IsCell)
    (inside : outer.contains inner = true) (level : inner.level = outer.level) :
    outer = inner := by
  rw [← ancestor_eq_of_contains outerCell innerCell inside, ← level]
  exact innerCell

theorem eq_of_common (outerCell : outer.IsCell) (middleCell : middle.IsCell)
    (innerCell : inner.IsCell) (first : outer.contains inner = true)
    (second : middle.contains inner = true) (level : middle.level = outer.level) :
    outer = middle :=
  eq_of_contains_of_level_eq outerCell middleCell
    (contains_of_common outerCell middleCell innerCell first second (Nat.le_of_eq level.symm))
    level

theorem level_lt_of_contains_of_ne (outerCell : outer.IsCell) (innerCell : inner.IsCell)
    (inside : outer.contains inner = true) (different : outer ≠ inner) :
    outer.level < inner.level := by
  have coarser := level_le_of_contains outerCell innerCell inside
  by_contra notFiner
  exact different (eq_of_contains_of_level_eq outerCell innerCell inside (by omega))

end CellId

namespace Location

/-- A location falls into a cell if the cell is the one of its level at the location. -/
def FallsInto (location : Location) (cell : CellId) : Prop :=
  location.cellAt cell.level = cell

instance (location : Location) (cell : CellId) : Decidable (location.FallsInto cell) :=
  inferInstanceAs (Decidable (_ = _))

variable {location : Location} {outer inner : CellId}

theorem level_cellAt (location : Location) {level : Nat} (bounded : level ≤ CellId.finestLevel) :
    (location.cellAt level).level = level :=
  CellId.level_ancestor _ bounded

theorem isCell_cellAt (location : Location) {level : Nat}
    (bounded : level ≤ CellId.finestLevel) : (location.cellAt level).IsCell :=
  CellId.isCell_ancestor _ bounded

/-- The cells of one location nest. -/
theorem ancestor_cellAt (location : Location) {coarse fine : Nat} (coarser : coarse ≤ fine) :
    (location.cellAt fine).ancestor coarse = location.cellAt coarse :=
  CellId.ancestor_ancestor _ coarser

theorem fallsInto_cellAt (location : Location) {level : Nat}
    (bounded : level ≤ CellId.finestLevel) : location.FallsInto (location.cellAt level) := by
  rw [FallsInto, level_cellAt location bounded]

theorem FallsInto.isCell (falls : location.FallsInto inner) : inner.IsCell := by
  rw [← falls]
  exact location.isCell_cellAt inner.level_le_finest

theorem FallsInto.ancestor_eq (outerFalls : location.FallsInto outer)
    (innerFalls : location.FallsInto inner) (coarser : outer.level ≤ inner.level) :
    inner.ancestor outer.level = outer := by
  rw [← innerFalls, location.ancestor_cellAt coarser]
  exact outerFalls

/-- Of two cells that a location falls into the coarser contains the other. -/
theorem FallsInto.contains (outerFalls : location.FallsInto outer)
    (innerFalls : location.FallsInto inner) (coarser : outer.level ≤ inner.level) :
    outer.contains inner = true :=
  (CellId.contains_iff outerFalls.isCell innerFalls.isCell).mpr
    ⟨coarser, outerFalls.ancestor_eq innerFalls coarser⟩

theorem FallsInto.of_contains (innerFalls : location.FallsInto inner) (outerCell : outer.IsCell)
    (inside : outer.contains inner = true) : location.FallsInto outer := by
  have coarser := CellId.level_le_of_contains outerCell innerFalls.isCell inside
  have ancestor := CellId.ancestor_eq_of_contains outerCell innerFalls.isCell inside
  rw [FallsInto, ← location.ancestor_cellAt coarser, innerFalls, ancestor]

theorem level_childAt (location : Location) {parent : CellId}
    (room : parent.level < CellId.finestLevel) :
    (location.childAt parent).level = parent.level + 1 :=
  location.level_cellAt room

theorem fallsInto_childAt (location : Location) {parent : CellId}
    (room : parent.level < CellId.finestLevel) :
    location.FallsInto (location.childAt parent) :=
  location.fallsInto_cellAt room

end Location

end LoadAtlas
