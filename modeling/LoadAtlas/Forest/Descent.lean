import LoadAtlas.Forest.Basic

/-!
# Descents

The leaf that counts a location is found by walking down from the top cell of the location,
at each split cell to the child that the location falls into.  `locate?` only looks; it finds
nothing if the top cell or a child on the way is missing.  `cover` creates what is missing:
one top cell, or one further child of a split cell.

No descent goes below the deepest level, so it has at most as many steps as there are levels
between the top cells and that level.
-/

namespace LoadAtlas
namespace Forest

/-- The leaf below a cell that a finest cell falls into, within the given number of steps. -/
def locateBelow (forest : Forest) (finest : CellId) : (steps : Nat) → CellId → Option CellId
  | 0, id => if forest.cells.contains id then some id else none
  | steps + 1, id =>
      match forest.cells[id]? with
      | none => none
      | some cell =>
          if cell.isLeaf then some id
          else
            let child := finest.ancestor (id.level + 1)
            if cell.children.contains child then locateBelow forest finest steps child
            else none

/-- The leaf that counts a location, if the forest covers it. -/
def locate? (forest : Forest) (location : Location) (topLevel maxLevel : Nat) :
    Option CellId :=
  let finest := location.finestCell
  forest.locateBelow finest (maxLevel - topLevel) (finest.ancestor topLevel)

/-- The leaf below a cell that a finest cell falls into, created if it is missing. -/
def coverBelow (forest : Forest) (finest : CellId) : (steps : Nat) → CellId → Forest × CellId
  | 0, id => (forest, id)
  | steps + 1, id =>
      match forest.cells[id]? with
      | none => (forest, id)
      | some cell =>
          if cell.isLeaf then (forest, id)
          else
            let child := finest.ancestor (id.level + 1)
            if cell.children.contains child then coverBelow forest finest steps child
            else
              let parent := { cell with children := cell.children ++ [child] }
              ((forest.setCell id parent).insertLeaf child Cell.empty, child)

/-- The leaf that counts a location, created if the forest does not cover it. -/
def cover (forest : Forest) (location : Location) (topLevel maxLevel : Nat) :
    Forest × CellId :=
  let finest := location.finestCell
  let top := finest.ancestor topLevel
  let rooted := if forest.cells.contains top then forest
    else { forest with tops := forest.tops.insert top }.insertLeaf top Cell.empty
  rooted.coverBelow finest (maxLevel - topLevel) top

end Forest
end LoadAtlas
