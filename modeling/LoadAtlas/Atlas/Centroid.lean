import LoadAtlas.Atlas.Basic
import LoadAtlas.Cell.Shape

/-!
# Weighted centroids

A centroid is a cell that stands for the clients inside it.  Its weight is their number, and
its centre stands for where they are.  The cells of an override have no live numbers and weigh
one each.
-/

namespace LoadAtlas

/-- A cell with its centre and the number of clients that it stands for. -/
structure WeightedCentroid where
  cell : CellId
  level : Nat
  center : Location
  count : Nat
  deriving Inhabited

/-- The centroid of a cell that stands for a number of clients. -/
def CellId.weighted (cell : CellId) (count : Nat) : Except NoShape WeightedCentroid := do
  return { cell, level := cell.level, center := ← cell.center, count }

namespace Atlas

def weightedCentroids (atlas : Atlas) (entity : String) :
    Except NoShape (Option (List WeightedCentroid)) :=
  match atlas.overrides[entity]? with
  | some cells => some <$> cells.mapM (·.weighted 1)
  | none =>
      match atlas.territories[entity]? with
      | none => .ok none
      | some territory =>
          some <$> territory.forest.activeCells.mapM fun cell =>
            cell.weighted (territory.forest.countAt cell)

end Atlas
end LoadAtlas
