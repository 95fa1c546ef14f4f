import LoadAtlas.Forest.Basic

/-!
# Refinement

A leaf with more clients than the split threshold is cut into the children that its buckets
fall into.  Children that are still too full are cut in turn, until every leaf is small enough
or has the deepest level.  The cuts are made level by level: all cells of one level before any
cell of the next.
-/

namespace LoadAtlas

/-- The buckets of a table grouped by the child of a cell that they fall into. -/
def BucketTable.groupByChild (buckets : BucketTable) (parent : CellId) :
    Std.ExtTreeMap CellId BucketTable :=
  buckets.toList.foldl
    (fun groups entry =>
      let child := entry.2.location.childAt parent
      groups.insert child ((groups.getD child ∅).insert entry.1 entry.2))
    ∅

namespace Forest

/-- A forest in the course of a refinement: the cells of the next level that are still too
full, and how many cells were split so far. -/
structure Refining where
  forest : Forest
  waiting : List CellId
  splits : Nat

def groupLeaf (buckets : BucketTable) : Cell where
  tally := Tally.ofTable buckets

/-- Adds the leaf for one group of buckets, which waits for its own split if it is too full
and not at the deepest level. -/
def addGroup (splitThreshold maxLevel : Nat) (refining : Refining)
    (group : CellId × BucketTable) : Refining :=
  let leaf := groupLeaf group.2
  let full := splitThreshold < leaf.clientCount ∧ group.1.level < maxLevel
  { refining with
    forest := refining.forest.insertLeaf group.1 leaf
    waiting := if full then refining.waiting ++ [group.1] else refining.waiting }

/-- Splits one cell.  Nothing happens to a cell that is missing, already split, not too full,
or at the deepest level. -/
def splitCell (splitThreshold maxLevel : Nat) (refining : Refining) (id : CellId) : Refining :=
  match refining.forest.cells[id]? with
  | none => refining
  | some cell =>
      if ¬ cell.isLeaf ∨ cell.clientCount ≤ splitThreshold ∨ maxLevel ≤ id.level then refining
      else
        let groups := cell.tally.buckets.groupByChild id
        let parent : Cell := { children := groups.keys }
        let emptied := refining.forest.setCell id parent
        let opened := { emptied with active := emptied.active.erase id }
        groups.toList.foldl (addGroup splitThreshold maxLevel)
          { refining with forest := opened, splits := refining.splits + 1 }

/-- Splits the waiting cells, then those of the next level, for the given number of levels. -/
def splitLevels (splitThreshold maxLevel : Nat) : (levels : Nat) → Refining → Refining
  | 0, refining => refining
  | levels + 1, refining =>
      splitLevels splitThreshold maxLevel levels
        (refining.waiting.foldl (splitCell splitThreshold maxLevel)
          { refining with waiting := [] })

/-- Splits a cell and whatever stays too full below it.  Tells how many cells were split. -/
def splitCascade (forest : Forest) (id : CellId) (splitThreshold maxLevel : Nat) :
    Forest × Nat :=
  let refined := splitLevels splitThreshold maxLevel (maxLevel - id.level) ⟨forest, [id], 0⟩
  (refined.forest, refined.splits)

end Forest
end LoadAtlas
