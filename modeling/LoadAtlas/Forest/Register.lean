import LoadAtlas.Bucket.Register
import LoadAtlas.Forest.Strict

/-!
# Sweeps in registers

Where clients are counted in registers of 64 bits, a sweep adds up the clients of the children of
a cell in one of them, from the first child to the first one that is split.  A sum that does not
fit stops the sweep, whether or not the cell would have been merged.

To merge a cell, the buckets of its children are gathered in one table, and then counted in the
cell.  What is gathered is part of a sum that did fit.
-/

namespace LoadAtlas
namespace Forest.Registers

open Strict

/-- What a register holds after an addition for a cell. -/
def add (id : CellId) (register amount : Nat) : Except Breach Nat :=
  if Tally.registerLimit < register + amount then .error (.overflow id)
  else .ok (register + amount)

/-- Adds up the clients of some children of a cell, if all of them are leaves. -/
def addUp (forest : Forest) (id : CellId) : (total : Nat) → List CellId →
    Except Breach (Option Nat)
  | total, [] => .ok (some total)
  | total, child :: children => do
      let cell ← expect forest child
      if cell.isLeaf then
        let total ← add id total cell.clientCount
        addUp forest id total children
      else return none

/-- Adds a bucket to those gathered for a cell. -/
def gatherBucket (id : CellId) (gathered : BucketTable) (entry : String × Bucket) :
    Except Breach BucketTable := do
  let _ ← add id (gathered.countOf entry.1) entry.2.count
  return gathered.add entry.1 entry.2.location entry.2.count

/-- Takes a child of a cell out of the forest and gathers its buckets. -/
def gatherChild (id : CellId) (state : Forest × BucketTable) (child : CellId) :
    Except Breach (Forest × BucketTable) := do
  let leaf ← expect state.1 child
  let gathered ← leaf.tally.buckets.toList.foldlM (gatherBucket id) state.2
  return (state.1.removeLeaf child, gathered)

/-- Takes the buckets of all children back into a cell, unless a child is split itself or the
children hold too many clients. -/
def merge (mergeThreshold : Nat) (forest : Forest) (id : CellId) :
    Except Breach (Option Forest) := do
  let cell ← expect forest id
  match ← addUp forest id 0 cell.children with
  | none => return none
  | some total =>
      if mergeThreshold ≤ total then return none
      else
        let (cleared, gathered) ← cell.children.foldlM (gatherChild id) (forest, ∅)
        let merged ← expect cleared id
        let tally ← (merged.tally.registerAll gathered).mapError fun _ => .overflow id
        return some (cleared.insertLeaf id { tally })

/-- Merges every cell that can be merged and tells which ones were. -/
def mergeSweep (forest : Forest) (mergeThreshold : Nat) : Except Breach (Forest × List CellId) :=
  sweepBy (merge mergeThreshold) forest

end Forest.Registers
end LoadAtlas
