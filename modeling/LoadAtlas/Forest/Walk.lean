import LoadAtlas.Forest.Basic

/-!
# Reports and walks

A report tells what is counted in a cell and into which cells it was split.  A forest keeps the
children of a cell in the order in which they came to be; a report lists them in increasing
order.

A walk reports every cell of a forest, breadth first: the top cells, then the children of all
of them, and so on.  Below a top cell there are at most as many levels as the globe's faces
can be cut.
-/

namespace LoadAtlas

/-- A report of one cell. -/
structure CellReport where
  id : CellId
  level : Nat
  clientCount : Nat
  children : List CellId
  buckets : List BucketCount

/-- The report of a cell with a given name. -/
def Cell.report (cell : Cell) (id : CellId) : CellReport where
  id := id
  level := id.level
  clientCount := cell.clientCount
  children := cell.children.mergeSort fun first second => first.code ≤ second.code
  buckets := cell.tally.byKey

def CellReport.isLeaf (report : CellReport) : Bool :=
  report.children.isEmpty

namespace Forest

def report? (forest : Forest) (id : CellId) : Option CellReport :=
  forest.cells[id]?.map fun cell => cell.report id

/-- The reports of some cells and of everything below them, for the given number of levels. -/
def reportsFrom (forest : Forest) : (levels : Nat) → List CellId → List CellReport
  | 0, _ => []
  | levels + 1, ids =>
      let reports := ids.filterMap forest.report?
      reports ++ reportsFrom forest levels (reports.flatMap CellReport.children)

/-- The reports of all cells that a walk from the top cells meets. -/
def reports (forest : Forest) : List CellReport :=
  forest.reportsFrom (CellId.finestLevel + 1) forest.topCells

end Forest
end LoadAtlas
