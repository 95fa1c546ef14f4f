import LoadAtlas.Forest.Basic

/-!
# Audits

An audit walks a forest from its top cells and reports the first thing that does not fit:
every cell named must be there and be met once, leaves must be active and count what their
buckets hold, split cells must be inactive and count nothing, children must lie one level
deeper inside their parent, and no cell may stand apart from the walk.
-/

namespace LoadAtlas
namespace Forest

/-- What an audit can find. -/
inductive Defect
  | missing (id : CellId)
  | metTwice (id : CellId)
  | inactiveLeaf (id : CellId)
  | miscounted (id : CellId)
  | activeSplit (id : CellId)
  | countingSplit (id : CellId)
  | strayChild (parent child : CellId)
  | unreachable
  | strayActive
  deriving DecidableEq, Inhabited

/-- What is wrong with a cell by itself. -/
def cellDefect? (forest : Forest) (id : CellId) (cell : Cell) : Option Defect :=
  if cell.isLeaf then
    if ¬ forest.isActive id then some (.inactiveLeaf id)
    else if cell.tally.buckets.sum ≠ cell.clientCount then some (.miscounted id)
    else none
  else if forest.isActive id then some (.activeSplit id)
  else if cell.clientCount ≠ 0 ∨ ¬ cell.tally.buckets.isEmpty then some (.countingSplit id)
  else
    (cell.children.find? fun child =>
      child.level ≠ id.level + 1 || !id.contains child).map (.strayChild id)

/-- Walks on from the cells that wait, having met others before.  Every step meets a new cell
of the table or ends the walk. -/
def walk (forest : Forest) : (steps : Nat) → (waiting : List CellId) → (met : CellSet) →
    Except Defect CellSet
  | _, [], met => .ok met
  | 0, _ :: _, _ => .error .unreachable
  | steps + 1, id :: waiting, met =>
      match forest.cells[id]? with
      | none => .error (.missing id)
      | some cell =>
          if met.contains id then .error (.metTwice id)
          else
            match forest.cellDefect? id cell with
            | some defect => .error defect
            | none => walk forest steps (cell.children ++ waiting) (met.insert id)

/-- Accepts a forest in which everything fits. -/
def audit (forest : Forest) : Except Defect Unit := do
  let met ← forest.walk (forest.size + 1) forest.topCells ∅
  if met.size ≠ forest.size then .error .unreachable
  else if forest.activeCells.any fun id => !met.contains id then .error .strayActive
  else .ok ()

end Forest
end LoadAtlas
