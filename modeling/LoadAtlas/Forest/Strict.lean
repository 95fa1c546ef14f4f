import LoadAtlas.Forest.Coarsen
import LoadAtlas.Forest.Descent
import LoadAtlas.Forest.Refine

/-!
# Strict operations

The operations on forests take for granted what a forest in order grants them: that a cell is
there if another part of the forest names it, that a cell to be created is not there yet, and
that no cell below the deepest level is asked for.  Their strict forms look, and stop where
this fails.  They also stop where a loop does not come to its end on its own.

On a forest in order the strict operations are the plain ones.  Their numbers are unbounded, as
those of the plain ones are; the sweeps of `LoadAtlas.Forest.Register` also stop where a number
does not fit into its register.
-/

namespace LoadAtlas

/-- Why a strict operation stops. -/
inductive Breach
  /-- A cell that the forest names is not there. -/
  | missing (id : CellId)
  /-- A cell to be created is there already. -/
  | createdTwice (id : CellId)
  /-- A cell below the deepest level is asked for. -/
  | tooDeep (level : Nat)
  /-- Clients are to be counted in a cell that was split. -/
  | countedInSplit (id : CellId)
  /-- More clients are to be taken out of a cell than it counts. -/
  | overdrawn (id : CellId)
  /-- More clients are to be counted for a cell than a register takes. -/
  | overflow (id : CellId)
  /-- A loop went through all levels and has not ended. -/
  | endless
  deriving DecidableEq, Inhabited

namespace Forest.Strict

/-- A cell that has to be there. -/
def expect (forest : Forest) (id : CellId) : Except Breach Cell :=
  match forest.cells[id]? with
  | some cell => .ok cell
  | none => .error (.missing id)

/-- The cell of a level at a location, if the level is allowed. -/
def cellAt (maxLevel : Nat) (location : Location) (level : Nat) : Except Breach CellId :=
  if maxLevel < level then .error (.tooDeep level) else .ok (location.cellAt level)

/-- The forest with a leaf that must not be there yet. -/
def insertLeaf (forest : Forest) (id : CellId) (cell : Cell) : Except Breach Forest :=
  if forest.cells.contains id then .error (.createdTwice id) else .ok (forest.insertLeaf id cell)

/-- The forest without a leaf that has to be there. -/
def removeLeaf (forest : Forest) (id : CellId) : Except Breach Forest := do
  let _ ← expect forest id
  return forest.removeLeaf id

/-! ## Descents -/

def locateBelow (forest : Forest) (location : Location) (maxLevel : Nat) :
    (steps : Nat) → CellId → Except Breach (Option CellId)
  | 0, _ => .error .endless
  | steps + 1, id => do
      let cell ← expect forest id
      if cell.isLeaf ∨ maxLevel ≤ id.level then return some id
      else
        let child ← cellAt maxLevel location (id.level + 1)
        if cell.children.contains child then locateBelow forest location maxLevel steps child
        else return none

def locate (forest : Forest) (location : Location) (topLevel maxLevel : Nat) :
    Except Breach (Option CellId) := do
  let top ← cellAt maxLevel location topLevel
  if forest.cells.contains top then
    locateBelow forest location maxLevel (maxLevel - topLevel + 1) top
  else return none

/-- The leaf below a cell that a location falls into, created if it is missing. -/
def coverBelow (location : Location) (maxLevel : Nat) :
    (steps : Nat) → Forest → CellId → Except Breach (Forest × CellId)
  | 0, _, _ => .error .endless
  | steps + 1, forest, id => do
      let cell ← expect forest id
      if cell.isLeaf ∨ maxLevel ≤ id.level then return (forest, id)
      else
        let child ← cellAt maxLevel location (id.level + 1)
        if cell.children.contains child then coverBelow location maxLevel steps forest child
        else
          let parent := { cell with children := cell.children ++ [child] }
          let opened ← insertLeaf (forest.setCell id parent) child Cell.empty
          coverBelow location maxLevel steps opened child

/-- The leaf that counts a location, created if the forest does not cover it. -/
def cover (forest : Forest) (location : Location) (topLevel maxLevel : Nat) :
    Except Breach (Forest × CellId) := do
  let top ← cellAt maxLevel location topLevel
  let rooted ← if forest.cells.contains top then pure forest
    else insertLeaf { forest with tops := forest.tops.insert top } top Cell.empty
  coverBelow location maxLevel (maxLevel - topLevel + 1) rooted top

/-! ## Splits -/

/-- The buckets of a table grouped by the child of a cell that they fall into. -/
def groupByChild (maxLevel : Nat) (buckets : BucketTable) (parent : CellId) :
    Except Breach (Std.ExtTreeMap CellId BucketTable) :=
  buckets.toList.foldlM
    (fun groups entry => do
      let child ← cellAt maxLevel entry.2.location (parent.level + 1)
      return groups.insert child ((groups.getD child ∅).insert entry.1 entry.2))
    ∅

def addGroup (splitThreshold maxLevel : Nat) (refining : Refining)
    (group : CellId × BucketTable) : Except Breach Refining := do
  let forest ← insertLeaf refining.forest group.1 (groupLeaf group.2)
  return { Forest.addGroup splitThreshold maxLevel refining group with forest }

def splitCell (splitThreshold maxLevel : Nat) (refining : Refining) (id : CellId) :
    Except Breach Refining :=
  match refining.forest.cells[id]? with
  | none => .ok refining
  | some cell =>
      if ¬ cell.isLeaf ∨ cell.clientCount ≤ splitThreshold ∨ maxLevel ≤ id.level then .ok refining
      else do
        let groups ← groupByChild maxLevel cell.tally.buckets id
        let parent : Cell := { children := groups.keys }
        let emptied := refining.forest.setCell id parent
        let opened := { emptied with active := emptied.active.erase id }
        groups.toList.foldlM (addGroup splitThreshold maxLevel)
          { refining with forest := opened, splits := refining.splits + 1 }

/-- Splits the waiting cells, then those of the next level, until none waits. -/
def splitLevels (splitThreshold maxLevel : Nat) : (levels : Nat) → Refining →
    Except Breach Refining
  | 0, refining => if refining.waiting.isEmpty then .ok refining else .error .endless
  | levels + 1, refining => do
      let next ← refining.waiting.foldlM (splitCell splitThreshold maxLevel)
        { refining with waiting := [] }
      splitLevels splitThreshold maxLevel levels next

/-- Splits a cell and whatever stays too full below it.  Tells how many cells were split. -/
def splitCascade (forest : Forest) (id : CellId) (splitThreshold maxLevel : Nat) :
    Except Breach (Forest × Nat) := do
  let refined ← splitLevels splitThreshold maxLevel (maxLevel - id.level + 1) ⟨forest, [id], 0⟩
  return (refined.forest, refined.splits)

/-! ## Sweeps -/

/-- Some children with their names, if all of them are leaves.  The first one that is no leaf
ends the search. -/
def leafChildren (forest : Forest) : List CellId → Except Breach (Option (List (CellId × Cell)))
  | [] => .ok (some [])
  | child :: children => do
      let cell ← expect forest child
      if cell.isLeaf then
        let leaves ← leafChildren forest children
        return leaves.map fun leaves => (child, cell) :: leaves
      else return none

/-- Takes the buckets of all children back into a cell, unless a child is split itself or the
children hold too many clients. -/
def merge (mergeThreshold : Nat) (forest : Forest) (id : CellId) :
    Except Breach (Option Forest) := do
  let cell ← expect forest id
  match ← leafChildren forest cell.children with
  | none => return none
  | some leaves =>
      if mergeThreshold ≤ (leaves.map fun leaf => leaf.2.clientCount).sum then return none
      else
        let cleared ← leaves.foldlM (fun forest leaf => removeLeaf forest leaf.1) forest
        let merged ← expect cleared id
        let tally := leaves.foldl (fun tally leaf => tally.absorb leaf.2.tally.buckets) merged.tally
        return some (cleared.insertLeaf id { tally })

/-- The split cells among some cells and below them, breadth first.  All cells that the search
comes to have to be there. -/
def splitCellsFrom (forest : Forest) : (levels : Nat) → List CellId →
    Except Breach (List CellId)
  | 0, [] => .ok []
  | 0, _ :: _ => .error .endless
  | levels + 1, ids => do
      let _ ← ids.mapM (expect forest)
      let split := ids.filter forest.isSplit
      let deeper ← splitCellsFrom forest levels (split.flatMap forest.childrenOf)
      return split ++ deeper

section Sweep

variable (merge : Forest → CellId → Except Breach (Option Forest))

def mergeCell (sweeping : Sweeping) (id : CellId) : Except Breach Sweeping := do
  match ← merge sweeping.forest id with
  | none => return sweeping
  | some forest => return ⟨forest, sweeping.merged ++ [id]⟩

/-- Merges what is due below one top cell, the deepest cells first. -/
def mergeBelow (sweeping : Sweeping) (top : CellId) : Except Breach Sweeping := do
  let candidates ← splitCellsFrom sweeping.forest (CellId.finestLevel + 1) [top]
  candidates.reverse.foldlM (mergeCell merge) sweeping

/-- Merges every cell that can be merged and tells which ones were. -/
def sweepBy (forest : Forest) : Except Breach (Forest × List CellId) := do
  let swept ← forest.topCells.foldlM (mergeBelow merge) ⟨forest, []⟩
  return (swept.forest, swept.merged)

end Sweep

def mergeSweep (forest : Forest) (mergeThreshold : Nat) : Except Breach (Forest × List CellId) :=
  sweepBy (merge mergeThreshold) forest

end Forest.Strict
end LoadAtlas
