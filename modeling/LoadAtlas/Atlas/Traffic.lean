import LoadAtlas.Atlas.Territory

/-!
# Traffic in a territory

Inserts, removals and sweeps of one entity come from many sides at once.  A removal holds the
territory's lock from beginning to end, and so does a sweep.  An insert takes the lock several
times and lets it go in between:

* to look for the leaf of its location and count its client there;
* where it found no leaf, once more to cover the location and count its client;
* where the leaf is now too full, to mark it for a split;
* where the mark was new, to clear it and split the leaf.

Between two steps of an insert anything may happen to the leaf: other inserts fill it or split
it, removals drain it, and a sweep merges it away, with or without its mark.
-/

namespace LoadAtlas

/-- How far an insert has come. -/
inductive Stage
  /-- It looks for the leaf of its location. -/
  | arriving (address : Bucket.Address)
  /-- It found no leaf and goes to cover its location. -/
  | uncovered (address : Bucket.Address)
  /-- It found its leaf too full after counting its client there, and goes to mark it. -/
  | overfull (leaf : CellId)
  /-- It marked a leaf and goes to split it. -/
  | splitting (leaf : CellId)
  | finished

/-- A territory, the inserts that were ever made in it, and how many cells were split and merged
meanwhile. -/
structure Traffic where
  territory : Territory := {}
  inserts : List Stage := []
  splits : Nat := 0
  merges : Nat := 0

/-- The clients that a step counts or takes away. -/
inductive Movement
  | none
  | came (key : String)
  | left (key : String) (amount : Nat)

namespace Traffic

/-- What may happen next. -/
inductive Step
  | arrive (location : Location)
  /-- One of the inserts takes its next step. -/
  | proceed (insert : Nat)
  | remove (location : Location) (amount : Nat)
  | sweep

def setStage (traffic : Traffic) (insert : Nat) (stage : Stage) : Traffic :=
  { traffic with inserts := traffic.inserts.set insert stage }

/-- Counts the client of an insert, which goes on if the leaf is too full afterwards. -/
def count (traffic : Traffic) (config : Config) (insert : Nat) (address : Bucket.Address) :
    Traffic × Movement :=
  let placement := traffic.territory.place config address 1
  let stage := if placement.overfull then .overfull placement.leaf else .finished
  ({ traffic with territory := placement.territory }.setStage insert stage, .came address.key)

/-- Lets an insert take its next step from the stage at which it is. -/
def proceed (traffic : Traffic) (config : Config) (insert : Nat) : Stage → Traffic × Movement
  | .arriving address =>
      match traffic.territory.forest.locate? address.location config.topLevel.toNat
          config.maxLevel.toNat with
      | some _ => traffic.count config insert address
      | none => (traffic.setStage insert (.uncovered address), .none)
  | .uncovered address =>
      { traffic with territory := traffic.territory.covering config address.location }.count config
        insert address
  | .overfull leaf =>
      let (territory, isNew) := traffic.territory.mark leaf
      let stage := if isNew then .splitting leaf else .finished
      ({ traffic with territory }.setStage insert stage, .none)
  | .splitting leaf =>
      let (territory, splits) := traffic.territory.splitMarked config leaf
      ({ traffic with territory, splits := traffic.splits + splits }.setStage insert .finished,
        .none)
  | .finished => (traffic, .none)

/-- Where the traffic is after a step.  A location that has no bucket is turned away. -/
def step (config : Config) (traffic : Traffic) : Step → Traffic × Movement
  | .arrive location =>
      match Bucket.address location config.bucketPrecision.toNat with
      | .ok address => ({ traffic with inserts := traffic.inserts ++ [.arriving address] }, .none)
      | .error _ => (traffic, .none)
  | .proceed insert =>
      match traffic.inserts[insert]? with
      | some stage => traffic.proceed config insert stage
      | none => (traffic, .none)
  | .remove location amount =>
      match Bucket.address location config.bucketPrecision.toNat with
      | .ok address =>
          let (territory, removed) := traffic.territory.remove config address amount
          ({ traffic with territory }, .left address.key removed)
      | .error _ => (traffic, .none)
  | .sweep =>
      let (territory, merged) := traffic.territory.sweep config
      ({ traffic with territory, merges := traffic.merges + merged }, .none)

def run (config : Config) (traffic : Traffic) (steps : List Step) : Traffic :=
  steps.foldl (fun traffic step => (traffic.step config step).1) traffic

/-- The movements of a run. -/
def trace (config : Config) (traffic : Traffic) : List Step → List Movement
  | [] => []
  | step :: steps =>
      let (next, movement) := traffic.step config step
      movement :: next.trace config steps

end Traffic
end LoadAtlas
