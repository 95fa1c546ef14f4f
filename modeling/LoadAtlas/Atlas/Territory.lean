import LoadAtlas.Forest.Coarsen
import LoadAtlas.Forest.Descent
import LoadAtlas.Forest.Refine
import LoadAtlas.Request.Check

/-!
# Territories

A territory is the forest of one entity together with the leaves that are marked for a split.
Counting a request takes up to three separate steps, between which other requests, removals
and sweeps may come: the request is counted in its leaf; if that leaf is now too full it is
marked; and whoever set the mark clears it and splits the leaf.
-/

namespace LoadAtlas

/-- The cells of one entity and its leaves that wait for a split. -/
structure Territory where
  forest : Forest := {}
  marked : CellSet := ∅
  deriving Inhabited

/-- What counting a request leaves behind. -/
structure Placement where
  territory : Territory
  /-- The leaf that counts the request. -/
  leaf : CellId
  /-- Whether that leaf now holds too many clients and may be split. -/
  overfull : Bool

namespace Forest

/-- The leaf that counts a location, created only if the forest does not cover it. -/
def settle (forest : Forest) (location : Location) (config : Config) : Forest × CellId :=
  let topLevel := config.topLevel.toNat
  let maxLevel := config.maxLevel.toNat
  match forest.locate? location topLevel maxLevel with
  | some leaf => (forest, leaf)
  | none => forest.cover location topLevel maxLevel

/-- The forest with more clients in one bucket of a leaf. -/
def addAt (forest : Forest) (leaf : CellId) (address : Bucket.Address) (amount : Nat) :
    Forest :=
  match forest.cells[leaf]? with
  | none => forest
  | some cell =>
      forest.setCell leaf { cell with tally := cell.tally.add address.key address.location amount }

end Forest

namespace Territory

def place (territory : Territory) (config : Config) (address : Bucket.Address)
    (amount : Nat) : Placement :=
  let (settled, leaf) := territory.forest.settle address.location config
  let forest := settled.addAt leaf address amount
  { territory := { territory with forest }
    leaf
    overfull := config.splitThreshold.toNat < forest.countAt leaf &&
      leaf.level < config.maxLevel.toNat }

/-- The territory in which a location is covered. -/
def covering (territory : Territory) (config : Config) (location : Location) : Territory :=
  { territory with
    forest := (territory.forest.cover location config.topLevel.toNat config.maxLevel.toNat).1 }

/-- Marks a leaf for a split and tells whether it was not marked before. -/
def mark (territory : Territory) (leaf : CellId) : Territory × Bool :=
  ({ territory with marked := territory.marked.insert leaf }, !territory.marked.contains leaf)

/-- Clears the mark of a leaf and splits it.  Tells how many cells were split. -/
def splitMarked (territory : Territory) (config : Config) (leaf : CellId) : Territory × Nat :=
  let (forest, splits) := territory.forest.splitCascade leaf config.splitThreshold.toNat
    config.maxLevel.toNat
  ({ forest, marked := territory.marked.erase leaf }, splits)

/-- Counts clients of a bucket and splits its leaf if it became too full.  Tells how many
cells were split. -/
def insert (territory : Territory) (config : Config) (address : Bucket.Address)
    (amount : Nat) : Territory × Nat :=
  let placement := territory.place config address amount
  if placement.overfull then
    let (territory, isNew) := placement.territory.mark placement.leaf
    if isNew then territory.splitMarked config placement.leaf else (territory, 0)
  else (placement.territory, 0)

/-- Takes up to `amount` clients out of a bucket and tells how many were taken.  Where no leaf
covers the bucket there are none to take. -/
def remove (territory : Territory) (config : Config) (address : Bucket.Address)
    (amount : Nat) : Territory × Nat :=
  let leaf? := territory.forest.locate? address.location config.topLevel.toNat
    config.maxLevel.toNat
  match leaf? with
  | none => (territory, 0)
  | some leaf =>
      match territory.forest.cells[leaf]? with
      | none => (territory, 0)
      | some cell =>
          let (tally, removed) := cell.tally.remove address.key amount
          ({ territory with forest := territory.forest.setCell leaf { cell with tally } },
            removed)

/-- Merges every cell that can be merged and tells how many were.  Marks stay only on leaves
that are still there. -/
def sweep (territory : Territory) (config : Config) : Territory × Nat :=
  let (forest, merged) := territory.forest.mergeSweep config.mergeThreshold.toNat
  if merged.isEmpty then (territory, 0)
  else ({ forest, marked := territory.marked.filter forest.isActive }, merged.length)

end Territory
end LoadAtlas
