import LoadAtlas.Forest.Basic

/-!
# Coarsening

A split cell whose children are all leaves with fewer clients than the merge threshold in
total takes their buckets back and becomes a leaf again.  A sweep takes one top cell after the
other.  It lists the split cells below the top cell breadth first and then goes through the
list from its end, the deepest cells first, so that a whole subtree can collapse in one sweep.

Clients are added up without a limit here.  `LoadAtlas.Forest.Register` has the same sweep in
registers of 64 bits.
-/

namespace LoadAtlas
namespace Forest

def leafNamed? (forest : Forest) (id : CellId) : Option (CellId × Cell) :=
  match forest.cells[id]? with
  | some leaf => if leaf.isLeaf then some (id, leaf) else none
  | none => none

/-- The child cells of a cell with their names, if all of them are leaves. -/
def leafChildren? (forest : Forest) (cell : Cell) : Option (List (CellId × Cell)) :=
  cell.children.mapM forest.leafNamed?

/-- Takes the buckets of all children back into a cell, unless a child is split itself or the
children hold too many clients. -/
def merge? (forest : Forest) (id : CellId) (mergeThreshold : Nat) : Option Forest :=
  match forest.cells[id]? with
  | none => none
  | some cell =>
      match forest.leafChildren? cell with
      | none => none
      | some leaves =>
          if mergeThreshold ≤ (leaves.map fun leaf => leaf.2.clientCount).sum then none
          else
            let tally := leaves.foldl (fun tally leaf => tally.absorb leaf.2.tally.buckets)
              cell.tally
            let cleared := leaves.foldl (fun forest leaf => forest.removeLeaf leaf.1) forest
            some (cleared.insertLeaf id { tally })

/-- Whether a cell is there and was split. -/
def isSplit (forest : Forest) (id : CellId) : Bool :=
  match forest.cells[id]? with
  | some cell => !cell.isLeaf
  | none => false

/-- The children of a cell; a cell that is not there has none. -/
def childrenOf (forest : Forest) (id : CellId) : List CellId :=
  match forest.cells[id]? with
  | some cell => cell.children
  | none => []

/-- The split cells among some cells and below them, breadth first, for the given number of
levels. -/
def splitCellsFrom (forest : Forest) : (levels : Nat) → List CellId → List CellId
  | 0, _ => []
  | levels + 1, ids =>
      let split := ids.filter forest.isSplit
      split ++ splitCellsFrom forest levels (split.flatMap forest.childrenOf)

/-- The split cells below a top cell and the top cell itself, breadth first.  Below a top cell
there are at most as many levels as the globe's faces can be cut. -/
def splitCells (forest : Forest) (top : CellId) : List CellId :=
  forest.splitCellsFrom (CellId.finestLevel + 1) [top]

/-- A forest in the course of a sweep and the cells merged so far. -/
structure Sweeping where
  forest : Forest
  merged : List CellId

def mergeCell (mergeThreshold : Nat) (sweeping : Sweeping) (id : CellId) : Sweeping :=
  match sweeping.forest.merge? id mergeThreshold with
  | none => sweeping
  | some forest => ⟨forest, sweeping.merged ++ [id]⟩

/-- Merges what is due below one top cell, the deepest cells first. -/
def mergeBelow (mergeThreshold : Nat) (sweeping : Sweeping) (top : CellId) : Sweeping :=
  (sweeping.forest.splitCells top).reverse.foldl (mergeCell mergeThreshold) sweeping

/-- Merges every cell that can be merged and tells which ones were, in the order in which it
came to them. -/
def mergeSweep (forest : Forest) (mergeThreshold : Nat) : Forest × List CellId :=
  let swept := forest.topCells.foldl (mergeBelow mergeThreshold) ⟨forest, []⟩
  (swept.forest, swept.merged)

end Forest
end LoadAtlas
