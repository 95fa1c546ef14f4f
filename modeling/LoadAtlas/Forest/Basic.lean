import LoadAtlas.Bucket.Tally
import LoadAtlas.Cell.Sphere
import Std.Data.ExtTreeSet.Lemmas

/-!
# Forests of cells

The clients of one entity are counted in a forest of cells.  The roots are coarse top cells,
created where traffic first appears; a cell without children is a leaf and holds a tally, and
a cell with children holds none.  A forest keeps its cells in one table, names its top cells,
and names its leaves once more as its active cells, so that reports need no walk.
-/

namespace LoadAtlas

/-- A set of cells, in the order of their words. -/
abbrev CellSet := Std.ExtTreeSet CellId

/-- One cell of a forest: the clients counted in it and the cells it was split into, in the
order in which they came to be. -/
structure Cell where
  tally : Tally := {}
  children : List CellId := []
  deriving Inhabited

namespace Cell

def empty : Cell :=
  {}

/-- Whether the cell was not split. -/
def isLeaf (cell : Cell) : Bool :=
  cell.children.isEmpty

def clientCount (cell : Cell) : Nat :=
  cell.tally.total

end Cell

/-- The cells of one entity. -/
structure Forest where
  tops : CellSet := ∅
  cells : Std.ExtTreeMap CellId Cell := ∅
  active : CellSet := ∅
  deriving Inhabited

namespace Forest

def empty : Forest :=
  {}

def size (forest : Forest) : Nat :=
  forest.cells.size

def activeSize (forest : Forest) : Nat :=
  forest.active.size

def isActive (forest : Forest) (id : CellId) : Bool :=
  forest.active.contains id

def activeCells (forest : Forest) : List CellId :=
  forest.active.toList

def topCells (forest : Forest) : List CellId :=
  forest.tops.toList

/-- The number of clients counted in a cell itself; a cell that is not there counts none. -/
def countAt (forest : Forest) (id : CellId) : Nat :=
  match forest.cells[id]? with
  | some cell => cell.clientCount
  | none => 0

def clientCount (forest : Forest) : Nat :=
  (forest.activeCells.map forest.countAt).sum

def insertLeaf (forest : Forest) (id : CellId) (cell : Cell) : Forest :=
  { forest with
    cells := forest.cells.insert id cell
    active := forest.active.insert id }

def removeLeaf (forest : Forest) (id : CellId) : Forest :=
  { forest with
    cells := forest.cells.erase id
    active := forest.active.erase id }

/-- The forest with another content in one cell. -/
def setCell (forest : Forest) (id : CellId) (cell : Cell) : Forest :=
  { forest with cells := forest.cells.insert id cell }

end Forest
end LoadAtlas
