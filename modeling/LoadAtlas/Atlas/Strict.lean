import LoadAtlas.Atlas.Run
import LoadAtlas.Forest.Strict

/-!
# Strict operations on atlases

The operations of an atlas that change its territories, made of the strict operations on
forests.  Counting a request looks for its leaf and covers its location by turns, until the
leaf is found.
-/

namespace LoadAtlas

namespace Territory.Strict

open Forest.Strict

/-- Counts clients of a bucket in the leaf of its location, within the given number of
attempts to find it. -/
def place (territory : Territory) (config : Config) (address : Bucket.Address) (amount : Nat) :
    (attempts : Nat) → Except Breach Placement
  | 0 => .error .endless
  | attempts + 1 => do
      let forest := territory.forest
      let topLevel := config.topLevel.toNat
      let maxLevel := config.maxLevel.toNat
      match ← locate forest address.location topLevel maxLevel with
      | some leaf =>
          let cell ← expect forest leaf
          if ¬ cell.isLeaf then .error (.countedInSplit leaf)
          else
            let tally := cell.tally.add address.key address.location amount
            return { territory := { territory with forest := forest.setCell leaf { cell with tally } }
                     leaf
                     overfull := config.splitThreshold.toNat < tally.total && leaf.level < maxLevel }
      | none =>
          let (covered, _) ← cover forest address.location topLevel maxLevel
          place { territory with forest := covered } config address amount attempts

/-- Clears the mark of a leaf and splits it.  Tells how many cells were split. -/
def splitMarked (territory : Territory) (config : Config) (leaf : CellId) :
    Except Breach (Territory × Nat) := do
  let (forest, splits) ← splitCascade territory.forest leaf config.splitThreshold.toNat
    config.maxLevel.toNat
  return ({ forest, marked := territory.marked.erase leaf }, splits)

/-- Counts clients of a bucket and splits its leaf if it became too full.  The leaf is found at
the first attempt or, once its location is covered, at the second. -/
def insert (territory : Territory) (config : Config) (address : Bucket.Address)
    (amount : Nat) : Except Breach (Territory × Nat) := do
  let placement ← place territory config address amount 2
  if placement.overfull then
    let (territory, isNew) := placement.territory.mark placement.leaf
    if isNew then splitMarked territory config placement.leaf else return (territory, 0)
  else return (placement.territory, 0)

/-- Takes up to `amount` clients out of a bucket and tells how many were taken. -/
def remove (territory : Territory) (config : Config) (address : Bucket.Address)
    (amount : Nat) : Except Breach (Territory × Nat) := do
  let forest := territory.forest
  match ← locate forest address.location config.topLevel.toNat config.maxLevel.toNat with
  | none => return (territory, 0)
  | some leaf =>
      let cell ← expect forest leaf
      let (tally, removed) := cell.tally.remove address.key amount
      if cell.tally.total < removed then .error (.overdrawn leaf)
      else return ({ territory with forest := forest.setCell leaf { cell with tally } }, removed)

def sweep (territory : Territory) (config : Config) : Except Breach (Territory × Nat) := do
  let (forest, merged) ← mergeSweep territory.forest config.mergeThreshold.toNat
  if merged.isEmpty then return (territory, 0)
  else return ({ forest, marked := territory.marked.filter forest.isActive }, merged.length)

end Territory.Strict

namespace Atlas.Strict

def insertBucket (atlas : Atlas) (entity : String) (address : Bucket.Address)
    (amount : Nat) : Except Breach Atlas := do
  let territory := atlas.territories.getD entity {}
  let (territory, splits) ← Territory.Strict.insert territory atlas.config address amount
  return { atlas.setTerritory entity territory with splits := atlas.splits + splits }

/-- Takes up to `amount` clients of an entity out of a bucket and tells how many were taken. -/
def removeBucket (atlas : Atlas) (entity : String) (address : Bucket.Address)
    (amount : Nat) : Except Breach (Atlas × Nat) :=
  match atlas.territories[entity]? with
  | none => .ok (atlas, 0)
  | some territory => do
      let (territory, removed) ← Territory.Strict.remove territory atlas.config address amount
      return (atlas.setTerritory entity territory, removed)

/-- Merges what is due in the territory of an entity and tells how many cells were merged. -/
def mergeSweep (atlas : Atlas) (entity : String) : Except Breach (Option (Atlas × Nat)) :=
  match atlas.territories[entity]? with
  | none => .ok none
  | some territory => do
      let (territory, merged) ← Territory.Strict.sweep territory atlas.config
      return some
        ({ atlas.setTerritory entity territory with merges := atlas.merges + merged }, merged)

/-- Merges what is due in all territories and tells how many cells were merged. -/
def mergeAll (atlas : Atlas) : Except Breach (Atlas × Nat) :=
  atlas.territories.keys.foldlM
    (fun (atlas, merged) entity => do
      match ← mergeSweep atlas entity with
      | none => return (atlas, merged)
      | some (swept, more) => return (swept, merged + more))
    (atlas, 0)

/-- Serves one request.  What does not touch a territory has no strict form of its own. -/
def serve (atlas : Atlas) : Request → Except Breach (Atlas × Reply)
  | .insert entity location =>
      match atlas.address location with
      | .error fault => .ok (atlas, .refused fault)
      | .ok address => do
          let atlas ← insertBucket atlas entity address 1
          return (atlas, .done)
  | .remove entity location amount =>
      match atlas.address location with
      | .error fault => .ok (atlas, .refused fault)
      | .ok address => do
          let (atlas, removed) ← removeBucket atlas entity address amount
          return (atlas, .removed removed)
  | .mergeSweep entity => do
      match ← mergeSweep atlas entity with
      | none => return (atlas, .merged none)
      | some (atlas, merged) => return (atlas, .merged (some merged))
  | .mergeAll => do
      let (atlas, merged) ← mergeAll atlas
      return (atlas, .merged (some merged))
  | request => .ok (atlas.serve request)

def run (atlas : Atlas) (requests : List Request) : Except Breach Atlas :=
  requests.foldlM (fun atlas request => Prod.fst <$> serve atlas request) atlas

end Atlas.Strict
end LoadAtlas
