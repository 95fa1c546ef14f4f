import LoadAtlas.Atlas.Territory
import LoadAtlas.Forest.Walk

/-!
# Atlases

An atlas holds one territory for each entity that was ever seen, all with the same
configuration, and counts the splits and merges made in all of them.  The leaves of an entity
are its centroids.  While an override is set for an entity, its centroids are the cells of the
override instead; the territory goes on underneath.
-/

namespace LoadAtlas

/-- The territories of all entities. -/
structure Atlas where
  config : Config
  territories : Std.ExtTreeMap String Territory := ∅
  overrides : Std.ExtTreeMap String (List CellId) := ∅
  splits : Nat := 0
  merges : Nat := 0
  deriving Inhabited

/-- Sums over the territories of an atlas. -/
structure IndexStats where
  entities : Nat := 0
  cells : Nat := 0
  activeCells : Nat := 0
  trackedClients : Nat := 0
  splits : Nat := 0
  merges : Nat := 0
  deriving DecidableEq, Inhabited

namespace Atlas

/-- An atlas without entities, if the configuration is sound. -/
def start (config : Config) : Except Fault Atlas :=
  (config.check.mapError .config).map fun config => { config }

def address (atlas : Atlas) (location : Location) : Except Fault Bucket.Address :=
  (Bucket.address location atlas.config.bucketPrecision.toNat).mapError .input

def setTerritory (atlas : Atlas) (entity : String) (territory : Territory) : Atlas :=
  { atlas with territories := atlas.territories.insert entity territory }

/-- Counts clients of an entity in a bucket.  An entity not seen before gets a territory. -/
def insertBucket (atlas : Atlas) (entity : String) (address : Bucket.Address)
    (amount : Nat) : Atlas :=
  let territory := atlas.territories.getD entity {}
  let (territory, splits) := territory.insert atlas.config address amount
  { atlas.setTerritory entity territory with splits := atlas.splits + splits }

def insert (atlas : Atlas) (entity : String) (location : Location) : Except Fault Atlas := do
  return atlas.insertBucket entity (← atlas.address location) 1

/-- Takes up to `amount` clients of an entity out of a bucket and tells how many were taken. -/
def removeBucket (atlas : Atlas) (entity : String) (address : Bucket.Address)
    (amount : Nat) : Atlas × Nat :=
  match atlas.territories[entity]? with
  | none => (atlas, 0)
  | some territory =>
      let (territory, removed) := territory.remove atlas.config address amount
      (atlas.setTerritory entity territory, removed)

/-- Takes as many clients of an entity out of each of some buckets as the bucket counts. -/
def removeBuckets (atlas : Atlas) (entity : String) (buckets : List (String × Bucket)) : Atlas :=
  buckets.foldl
    (fun atlas entry =>
      (atlas.removeBucket entity ⟨entry.1, entry.2.location⟩ entry.2.count).1)
    atlas

/-- Takes up to `amount` clients of an entity away from a location and tells how many were
taken.  No cell is merged for it. -/
def remove (atlas : Atlas) (entity : String) (location : Location) (amount : Nat) :
    Except Fault (Atlas × Nat) := do
  return atlas.removeBucket entity (← atlas.address location) amount

/-- Merges what is due in the territory of an entity and tells how many cells were merged. -/
def mergeSweep? (atlas : Atlas) (entity : String) : Option (Atlas × Nat) :=
  atlas.territories[entity]?.map fun territory =>
    let (territory, merged) := territory.sweep atlas.config
    ({ atlas.setTerritory entity territory with merges := atlas.merges + merged }, merged)

/-- Merges what is due in all territories and tells how many cells were merged. -/
def mergeAll (atlas : Atlas) : Atlas × Nat :=
  atlas.territories.keys.foldl
    (fun (atlas, merged) entity =>
      match atlas.mergeSweep? entity with
      | none => (atlas, merged)
      | some (swept, more) => (swept, merged + more))
    (atlas, 0)

/-- Answers for an entity with the given cells until the override is cleared. -/
def setOverride (atlas : Atlas) (entity : String) (cells : List CellId) : Atlas :=
  { atlas with overrides := atlas.overrides.insert entity cells }

/-- Clears the override of an entity and tells whether there was one. -/
def clearOverride (atlas : Atlas) (entity : String) : Atlas × Bool :=
  ({ atlas with overrides := atlas.overrides.erase entity }, atlas.overrides.contains entity)

def isExploring (atlas : Atlas) (entity : String) : Bool :=
  atlas.overrides.contains entity

/-- The leaves of an entity in increasing order, or the cells of its override. -/
def centroids? (atlas : Atlas) (entity : String) : Option (List CellId) :=
  match atlas.overrides[entity]? with
  | some cells => some cells
  | none => atlas.territories[entity]?.map fun territory => territory.forest.activeCells

def clientCount? (atlas : Atlas) (entity : String) : Option Nat :=
  atlas.territories[entity]?.map fun territory => territory.forest.clientCount

def topCells? (atlas : Atlas) (entity : String) : Option (List CellId) :=
  atlas.territories[entity]?.map fun territory => territory.forest.topCells

def report? (atlas : Atlas) (entity : String) (id : CellId) : Option CellReport :=
  atlas.territories[entity]?.bind fun territory => territory.forest.report? id

/-- The reports of all cells of an entity. -/
def reports? (atlas : Atlas) (entity : String) : Option (List CellReport) :=
  atlas.territories[entity]?.map fun territory => territory.forest.reports

def entities (atlas : Atlas) : List String :=
  atlas.territories.keys

def stats (atlas : Atlas) : IndexStats :=
  let forests := atlas.territories.toList.map fun entry => entry.2.forest
  { entities := forests.length
    cells := (forests.map Forest.size).sum
    activeCells := (forests.map Forest.activeSize).sum
    trackedClients := (forests.map Forest.clientCount).sum
    splits := atlas.splits
    merges := atlas.merges }

end Atlas
end LoadAtlas
