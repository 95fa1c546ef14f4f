import LoadAtlas.Forest.Walk
import LoadAtlas.Proofs.Bucket.Breakdown
import LoadAtlas.Proofs.Forest.Branches

/-!
# What a walk meets

A walk goes level by level from the top cells through the children that reports name.  In a
well-formed forest it meets every cell of the table, and none of them twice, so whatever the
forest keeps besides its table can be read off the walk: the active cells are those that are
reported without children, and the clients are those that these report.
-/

namespace LoadAtlas

section

variable {id child : CellId} {cell : Cell}

/-- A report lists each child as often as the cell does. -/
theorem Cell.children_report_perm (cell : Cell) (id : CellId) :
    (cell.report id).children.Perm cell.children :=
  List.mergeSort_perm _ _

theorem Cell.mem_children_report : child ∈ (cell.report id).children ↔ child ∈ cell.children :=
  (cell.children_report_perm id).mem_iff

theorem Cell.pairwise_children_report (cell : Cell) (id : CellId) :
    (cell.report id).children.Pairwise fun first second => first.code ≤ second.code := by
  refine (List.pairwise_mergeSort ?_ ?_ cell.children).imp fun less => of_decide_eq_true less
  · intro first second third firstLess secondLess
    exact decide_eq_true
      (UInt64.le_trans (of_decide_eq_true firstLess) (of_decide_eq_true secondLess))
  · intro first second
    simpa using UInt64.le_total first.code second.code

/-- The order in which a cell keeps its children does not show in a report. -/
theorem Cell.children_report_eq {other : Cell} (same : cell.children.Perm other.children) :
    (cell.report id).children = (other.report id).children := by
  refine List.Perm.eq_of_pairwise (fun first second _ _ less more => ?_)
    (cell.pairwise_children_report id) (other.pairwise_children_report id)
    ((cell.children_report_perm id).trans (same.trans (other.children_report_perm id).symm))
  exact congrArg CellId.mk (UInt64.le_antisymm less more)

end

namespace Forest

/-- The cells that a walk meets which goes from some top cells through the children that
reports name. -/
inductive Met (tops : List CellId) (report? : CellId → Option CellReport) : CellId → Prop
  | top {id : CellId} (member : id ∈ tops) : Met tops report? id
  | child {id child : CellId} {report : CellReport} (met : Met tops report? id)
      (reported : report? id = some report) (member : child ∈ report.children) :
      Met tops report? child

variable {topLevel maxLevel level levels : Nat} {forest : Forest} {ids : List CellId}
  {id other : CellId} {cell : Cell} {report : CellReport}

theorem report?_eq_some_iff : forest.report? id = some report ↔
    ∃ cell : Cell, forest.cells[id]? = some cell ∧ cell.report id = report :=
  Option.map_eq_some_iff

namespace WellFormed

section

variable (wellFormed : forest.WellFormed topLevel maxLevel)

include wellFormed

end

variable (wellFormed : forest.WellFormed topLevel maxLevel)

include wellFormed

theorem topCells_there : ∀ id ∈ forest.topCells, id ∈ forest.cells ∧ id.level = topLevel :=
  fun id member => (wellFormed.tops id).mp (mem_topCells.mp member)

theorem met_iff : Met forest.topCells forest.report? id ↔ id ∈ forest.cells := by
  constructor
  · intro met
    induction met with
    | top member => exact (wellFormed.topCells_there _ member).1
    | child _ reported member _ =>
        obtain ⟨cell, present, rfl⟩ := report?_eq_some_iff.mp reported
        exact (wellFormed.child present (Cell.mem_children_report.mp member)).1
  · -- Induction on the levels below the top: the cell around a cell is met before it.
    intro member
    obtain ⟨depth, deep⟩ : ∃ depth, id.level ≤ topLevel + depth := ⟨id.level, by omega⟩
    induction depth generalizing id with
    | zero =>
        obtain ⟨cell, present⟩ := mem_cells_iff.mp member
        have level := (wellFormed.levels present).1
        exact .top (mem_topCells.mpr ((wellFormed.tops id).mpr ⟨member, by omega⟩))
    | succ depth induction =>
        obtain ⟨cell, present⟩ := mem_cells_iff.mp member
        have level := (wellFormed.levels present).1
        by_cases top : id.level = topLevel
        · exact .top (mem_topCells.mpr ((wellFormed.tops id).mpr ⟨member, top⟩))
        · obtain ⟨parent, parentPresent, listed⟩ := wellFormed.parent present (by omega)
          have bounded := id.level_le_finest
          have shallower : (id.ancestor (id.level - 1)).level = id.level - 1 :=
            id.level_ancestor (by omega)
          exact .child (induction (mem_cells_iff.mpr ⟨parent, parentPresent⟩) (by omega))
            (by rw [report?, parentPresent, Option.map_some])
            (Cell.mem_children_report.mpr listed)

/-! ## Leaves -/

end WellFormed

end Forest

end LoadAtlas
